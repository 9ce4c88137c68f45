import TemplateAudit.Proofs.Json.Literal
import TemplateAudit.Proofs.LineIndex.Outline

/-!
# The grammar of indexed texts

`Document limit text outline` says that a text is one value with blanks around it, and that
`outline` is the structure of the value with the line of every node. The grammar is that of JSON
with any bare word in the place of a number or a literal name, and with a bound on the nesting of
containers.
-/

namespace TemplateAudit.LineIndex

set_option autoImplicit false

open Json

/-- The line that follows on a text: the first one, and one more for each line break. -/
def lineAfter (before : List Char) : Nat :=
  1 + before.count '\n'

/-- The line that follows on a text, in 32 bits. -/
def wordAfter (before : List Char) : UInt32 :=
  .ofNat (lineAfter before)

def Blanks (cs : List Char) : Prop :=
  ∀ c ∈ cs, c = ' ' ∨ c = '\t' ∨ c = '\r' ∨ c = '\n'

/-- A run of characters that passes for a number or a literal name. -/
structure Word (cs : List Char) : Prop where
  nonempty : cs ≠ []
  unbroken : ∀ c ∈ cs, c ≠ ',' ∧ c ≠ '}' ∧ c ≠ ']' ∧ Text.isAsciiBlank c = false
  start : ∀ c ∈ cs.head?, c ≠ '{' ∧ c ≠ '[' ∧ c ≠ '"'

inductive Part where
  | value (node : Outline)
  /-- An item with the blanks around it. -/
  | item (node : Outline)
  /-- The items of an array, at least one. -/
  | items (nodes : List Outline)
  /-- A member with the blanks around it. -/
  | member (key : String) (node : Outline)
  /-- The members of an object, at least one. -/
  | members (nodes : List (String × Outline))

/-- `Derives limit depth before text part`: behind the text `before` and inside `depth` containers,
`text` is such a part of a document, and no value in it is inside more than `limit` containers.
Items and members are counted with the container that they stand in. -/
inductive Derives (limit : Nat) : Nat → List Char → List Char → Part → Prop where
  | word {depth line : Nat} {before cs : List Char} :
      depth ≤ limit → Word cs → Derives limit depth before cs (.value (.leaf line))
  | literal {depth line : Nat} {before body value : List Char} :
      depth ≤ limit → Spells body value →
      Derives limit depth before ('"' :: body ++ ['"']) (.value (.leaf line))
  | emptyArray {depth line : Nat} {before gap : List Char} :
      depth ≤ limit → Blanks gap →
      Derives limit depth before ('[' :: gap ++ [']']) (.value (.array line []))
  | array {depth line : Nat} {before inner : List Char} {nodes : List Outline} :
      depth ≤ limit → Derives limit depth (before ++ ['[']) inner (.items nodes) →
      Derives limit depth before ('[' :: inner ++ [']']) (.value (.array line nodes))
  | emptyObject {depth line : Nat} {before gap : List Char} :
      depth ≤ limit → Blanks gap →
      Derives limit depth before ('{' :: gap ++ ['}']) (.value (.object line []))
  | object {depth line : Nat} {before inner : List Char} {nodes : List (String × Outline)} :
      depth ≤ limit → Derives limit depth (before ++ ['{']) inner (.members nodes) →
      Derives limit depth before ('{' :: inner ++ ['}']) (.value (.object line nodes))
  | item {depth : Nat} {before lead text trail : List Char} {node : Outline} :
      Blanks lead → Derives limit (depth + 1) (before ++ lead) text (.value node) →
      node.line = lineAfter (before ++ lead) → Blanks trail →
      Derives limit depth before (lead ++ text ++ trail) (.item node)
  | lastItem {depth : Nat} {before text : List Char} {node : Outline} :
      Derives limit depth before text (.item node) → Derives limit depth before text (.items [node])
  | moreItems {depth : Nat} {before text more : List Char} {node : Outline}
      {nodes : List Outline} :
      Derives limit depth before text (.item node) →
      Derives limit depth (before ++ text ++ [',']) more (.items nodes) →
      Derives limit depth before (text ++ ',' :: more) (.items (node :: nodes))
  | member {depth : Nat} {before lead body gap gap' text trail : List Char} {key : String}
      {node : Outline} :
      Blanks lead → Spells body key.toList → Blanks gap → Blanks gap' →
      Derives limit (depth + 1) (before ++ lead ++ '"' :: body ++ '"' :: gap ++ ':' :: gap') text
        (.value node) →
      node.line = lineAfter (before ++ lead) → Blanks trail →
      Derives limit depth before (lead ++ '"' :: body ++ '"' :: gap ++ ':' :: gap' ++ text ++ trail)
        (.member key node)
  | lastMember {depth : Nat} {before text : List Char} {key : String} {node : Outline} :
      Derives limit depth before text (.member key node) →
      Derives limit depth before text (.members [(key, node)])
  | moreMembers {depth : Nat} {before text more : List Char} {key : String} {node : Outline}
      {nodes : List (String × Outline)} :
      Derives limit depth before text (.member key node) →
      Derives limit depth (before ++ text ++ [',']) more (.members nodes) →
      Derives limit depth before (text ++ ',' :: more) (.members ((key, node) :: nodes))

/-- A whole text with its outline, whose root counts as starting on the first line. -/
def Document (limit : Nat) (text : List Char) (outline : Outline) : Prop :=
  ∃ lead body trail, Blanks lead ∧ Blanks trail ∧ text = lead ++ body ++ trail ∧
    outline.line = 1 ∧ Derives limit 0 lead body (.value outline)

/-! ## Lines -/

@[simp] theorem lineAfter_nil : lineAfter [] = 1 := rfl

@[simp] theorem wordAfter_nil : wordAfter [] = firstLine := rfl

theorem lineAfter_append (before text : List Char) :
    lineAfter (before ++ text) = lineAfter before + text.count '\n' := by
  simp [lineAfter, List.count_append, Nat.add_assoc]

theorem lineAfter_append_of_not_mem {text : List Char} (h : '\n' ∉ text) (before : List Char) :
    lineAfter (before ++ text) = lineAfter before := by
  rw [lineAfter_append, List.count_eq_zero.mpr h, Nat.add_zero]

theorem wordAfter_append (before text : List Char) :
    wordAfter (before ++ text) = wordAfter before + UInt32.ofNat (text.count '\n') := by
  rw [wordAfter, lineAfter_append, UInt32.ofNat_add, wordAfter]

theorem wordAfter_append_of_not_mem {text : List Char} (h : '\n' ∉ text) (before : List Char) :
    wordAfter (before ++ text) = wordAfter before := by
  rw [wordAfter, lineAfter_append_of_not_mem h, wordAfter]

theorem lineAfter_concat {c : Char} (hc : c ≠ '\n') (before : List Char) :
    lineAfter (before ++ [c]) = lineAfter before :=
  lineAfter_append_of_not_mem (by simpa using Ne.symm hc) before

theorem wordAfter_concat {c : Char} (hc : c ≠ '\n') (before : List Char) :
    wordAfter (before ++ [c]) = wordAfter before :=
  wordAfter_append_of_not_mem (by simpa using Ne.symm hc) before

/-! ## Blanks and words -/

theorem isJsonBlank_iff {c : Char} :
    Text.isJsonBlank c = true ↔ c = ' ' ∨ c = '\t' ∨ c = '\r' ∨ c = '\n' := by
  simp only [Text.isJsonBlank, Bool.or_eq_true, beq_iff_eq, ← Char.toNat_inj]
  change _ ↔ c.toNat = 32 ∨ c.toNat = 9 ∨ c.toNat = 13 ∨ c.toNat = 10
  omega

theorem blanks_iff {cs : List Char} : Blanks cs ↔ ∀ c ∈ cs, Text.isJsonBlank c = true := by
  simp only [Blanks, isJsonBlank_iff]

theorem blanks_nil : Blanks [] := by
  simp [Blanks]

theorem endsScalar_of_isJsonBlank {c : Char} (h : Text.isJsonBlank c = true) :
    endsScalar c = true := by
  have hblank : Text.isAsciiBlank c = true := by
    simp only [Text.isJsonBlank, Text.isAsciiBlank, Bool.or_eq_true, beq_iff_eq] at h ⊢
    omega
  simp [endsScalar, hblank]

theorem endsScalar_eq_false_iff {c : Char} :
    endsScalar c = false ↔ c ≠ ',' ∧ c ≠ '}' ∧ c ≠ ']' ∧ Text.isAsciiBlank c = false := by
  simp [endsScalar, and_assoc]

def NumberChar (c : Char) : Prop :=
  (48 ≤ c.toNat ∧ c.toNat ≤ 57) ∨ c = '-' ∨ c = '+' ∨ c = '.' ∨ c = 'e' ∨ c = 'E'

theorem NumberChar.ne {c d : Char} (h : NumberChar c) (hd : ¬ NumberChar d) : c ≠ d := by
  rintro rfl
  exact hd h

theorem NumberChar.not_blank {c : Char} (h : NumberChar c) : Text.isAsciiBlank c = false := by
  rcases h with h | rfl | rfl | rfl | rfl | rfl
  · simp only [Text.isAsciiBlank, Bool.or_eq_false_iff, beq_eq_false_iff_ne]
    omega
  all_goals decide

theorem NumberChar.mark_ne {c : Char} (h : NumberChar c) : c.toNat ≠ 0xFEFF := by
  rcases h with h | rfl | rfl | rfl | rfl | rfl
  · omega
  all_goals decide

instance (c : Char) : Decidable (NumberChar c) :=
  inferInstanceAs (Decidable (_ ∨ _))

theorem word_of_numberChars {cs : List Char} (hne : cs ≠ []) (h : ∀ c ∈ cs, NumberChar c) :
    Word cs where
  nonempty := hne
  unbroken := fun c hc => ⟨(h c hc).ne (by decide), (h c hc).ne (by decide),
    (h c hc).ne (by decide), (h c hc).not_blank⟩
  start := by
    intro c hc
    have hnumber := h c (List.mem_of_mem_head? hc)
    exact ⟨hnumber.ne (by decide), hnumber.ne (by decide), hnumber.ne (by decide)⟩

theorem word_null : Word ['n', 'u', 'l', 'l'] :=
  ⟨by simp, by simp [Text.isAsciiBlank], by simp⟩

theorem word_true : Word ['t', 'r', 'u', 'e'] :=
  ⟨by simp, by simp [Text.isAsciiBlank], by simp⟩

theorem word_false : Word ['f', 'a', 'l', 's', 'e'] :=
  ⟨by simp, by simp [Text.isAsciiBlank], by simp⟩

/-- The text behind a scalar does not continue it. -/
def Stops (rest : List Char) : Prop :=
  ∀ c ∈ rest.head?, endsScalar c = true

theorem stops_of_blanks {ws rest : List Char} (hws : Blanks ws) (h : Stops rest) :
    Stops (ws ++ rest) := by
  cases ws with
  | nil => exact h
  | cons c ws =>
    intro d hd
    obtain rfl : c = d := by simpa using hd
    exact endsScalar_of_isJsonBlank (isJsonBlank_iff.mpr (hws c List.mem_cons_self))

/-- What a value starts with: no blank and nothing that closes or separates. -/
def Opens (c : Char) : Prop :=
  Text.isJsonBlank c = false ∧ c ≠ ',' ∧ c ≠ ']' ∧ c ≠ '}'

instance (c : Char) : Decidable (Opens c) :=
  inferInstanceAs (Decidable (_ ∧ _ ∧ _ ∧ _))

theorem Word.opens {c : Char} {cs : List Char} (h : Word (c :: cs)) : Opens c := by
  obtain ⟨hcomma, hbrace, hbracket, hblank⟩ := h.unbroken c List.mem_cons_self
  refine ⟨?_, hcomma, hbracket, hbrace⟩
  by_contra hjson
  have hends := endsScalar_of_isJsonBlank (by simpa using hjson)
  rw [endsScalar_eq_false_iff.mpr ⟨hcomma, hbrace, hbracket, hblank⟩] at hends
  simp at hends

theorem Derives.value_opens {limit depth : Nat} {before text : List Char} {node : Outline}
    (h : Derives limit depth before text (.value node)) : ∃ c rest, text = c :: rest ∧ Opens c := by
  cases h with
  | word _ hword =>
    cases text with
    | nil => exact absurd rfl hword.nonempty
    | cons c rest => exact ⟨c, rest, rfl, hword.opens⟩
  | literal => exact ⟨'"', _, rfl, by decide⟩
  | emptyArray => exact ⟨'[', _, rfl, by decide⟩
  | array => exact ⟨'[', _, rfl, by decide⟩
  | emptyObject => exact ⟨'{', _, rfl, by decide⟩
  | object => exact ⟨'{', _, rfl, by decide⟩

end TemplateAudit.LineIndex
