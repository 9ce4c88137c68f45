import Mathlib.Data.List.Forall2
import TemplateAudit.Proofs.Json.Texts
import TemplateAudit.Proofs.LineIndex.Layout
import TemplateAudit.Proofs.Path.Canonical

/-!
# Printed values are texts

Both layouts of a value without floats are JSON texts, and the tree of such a text spells the value:
strings stand for themselves and integers are given by their digits. The layouts differ in blanks
only, which the grammar passes over.
-/

namespace TemplateAudit.Json

set_option autoImplicit false

open Written
open LineIndex (Blanks Digit Whole blanks_nil blanks_lineBreak)

/-! ## Strings and integers -/

/-- The units are those of a spelling of the string. -/
def Denotes (units : List StringUnit) (s : String) : Prop :=
  ∃ body, Units body units ∧ Spells body s.toList

theorem Denotes.decode {units : List StringUnit} {s : String} (h : Denotes units s) :
    decodeString? units = some s := by
  obtain ⟨body, hunits, hspells⟩ := h
  -- The same body has only one list of units.
  obtain ⟨others, hothers, hdecode⟩ := units_of_spells hspells
  have hsame := (stringUnits?_of_units hunits []).symm.trans (stringUnits?_of_units hothers [])
  obtain ⟨rfl, -⟩ := Prod.mk.inj (Option.some.inj hsame)
  rw [decodeString?, hdecode, Option.map_some, String.ofList_toList]

theorem exists_denotes (s : String) :
    ∃ units, Denotes units s ∧ Units (s.toList.flatMap escapeChar) units := by
  have hspells := spells_flatMap_escapeChar s.toList
  obtain ⟨units, hunits, -⟩ := units_of_spells hspells
  exact ⟨units, ⟨_, hunits, hspells⟩, hunits⟩

def NumberText.ofInt : Int → NumberText
  | .ofNat n => .ofParts false (Nat.toDigits 10 n) [] []
  | .negSucc n => .ofParts true (Nat.toDigits 10 (n + 1)) [] []

theorem digit_of_mem_toDigits {n : Nat} {c : Char} (hc : c ∈ Nat.toDigits 10 n) : Digit c :=
  Path.digit_bounds hc

theorem head_toDigits {n : Nat} (h : 0 < n) :
    ∃ c cs, Nat.toDigits 10 n = c :: cs ∧ c ≠ '0' := by
  induction n using Nat.strongRecOn with
  | ind n ih =>
    by_cases hsmall : n < 10
    · refine ⟨n.digitChar, [], Nat.toDigits_of_lt_base hsmall, ?_⟩
      intro hzero
      have hvalue := Nat.ofDigitChars_ten_toDigits (n := n)
      rw [Nat.toDigits_of_lt_base hsmall, hzero] at hvalue
      have : n = 0 := hvalue.symm
      omega
    · -- All but the last digit are those of the quotient, which has the same first one.
      obtain ⟨c, cs, hcons, hc⟩ := ih (n / 10) (by omega) (by omega)
      refine ⟨c, cs ++ [(n % 10).digitChar], ?_, hc⟩
      rw [Nat.toDigits_of_base_le (by decide) (by omega), hcons, List.cons_append]

theorem whole_toDigits (n : Nat) : Whole (Nat.toDigits 10 n) := by
  rcases Nat.eq_zero_or_pos n with rfl | hpos
  · exact .zero
  · have hdigits : ∀ c ∈ Nat.toDigits 10 n, Digit c := fun c hc => digit_of_mem_toDigits hc
    obtain ⟨c, cs, hcons, hc⟩ := head_toDigits hpos
    rw [hcons] at hdigits ⊢
    obtain ⟨hhead, htail⟩ := List.forall_mem_cons.mp hdigits
    exact .digits hhead hc htail

theorem forms_int (n : Int) : Forms (toString n).toList (.value (.number (.ofInt n))) := by
  cases n with
  | ofNat n =>
    have hforms := Forms.number (whole_toDigits n) .absent .absent
    simp only [List.append_nil] at hforms
    rw [show (toString (Int.ofNat n)).toList = Nat.toDigits 10 n from Nat.toList_repr]
    exact hforms
  | negSucc n =>
    have hforms := Forms.negative (whole_toDigits (n + 1)) .absent .absent
    simp only [List.append_nil] at hforms
    rw [LineIndex.toString_negSucc, Nat.toString_eq_repr, Nat.toList_repr]
    exact hforms

/-! ## Values without floats -/

inductive Integral : Json → Prop where
  | null : Integral .null
  | bool (b : Bool) : Integral (.bool b)
  | int (n : Integer) : Integral (.number (.int n))
  | string (s : String) : Integral (.string s)
  | array {items : List Json} : (∀ item ∈ items, Integral item) → Integral (.array items)
  | object {members : List (String × Json)} :
      (∀ member ∈ members, Integral member.2) → Integral (.object members)

theorem Integral.items {items : List Json} (h : Integral (.array items)) :
    ∀ item ∈ items, Integral item := by
  cases h with
  | array hitems => exact hitems

theorem Integral.members {members : List (String × Json)} (h : Integral (.object members)) :
    ∀ member ∈ members, Integral member.2 := by
  cases h with
  | object hmembers => exact hmembers

mutual

/-- The tree writes the value, in the same order and with each integer by its digits. -/
inductive Spelled : Json → Written → Prop where
  | null : Spelled .null .null
  | bool (b : Bool) : Spelled (.bool b) (.bool b)
  | int (n : Integer) : Spelled (.number (.int n)) (.number (.ofInt n.value))
  | string {s : String} {units : List StringUnit} :
      Denotes units s → Spelled (.string s) (.string units)
  | array {items : List Json} {trees : List Written} :
      List.Forall₂ Spelled items trees → Spelled (.array items) (.array trees)
  | object {members : List (String × Json)} {trees : List (List StringUnit × Written)} :
      List.Forall₂ SpelledMember members trees → Spelled (.object members) (.object trees)

inductive SpelledMember : String × Json → List StringUnit × Written → Prop where
  | mk {key : String} {units : List StringUnit} {value : Json} {tree : Written} :
      Denotes units key → Spelled value tree → SpelledMember (key, value) (units, tree)

end

theorem Spelled.text {s : String} {tree : Written} (h : Spelled (.string s) tree) :
    ∃ units, tree = .string units ∧ Denotes units s := by
  cases h with
  | string hdenotes => exact ⟨_, rfl, hdenotes⟩

theorem Spelled.items {items : List Json} {tree : Written} (h : Spelled (.array items) tree) :
    ∃ trees, tree = .array trees ∧ List.Forall₂ Spelled items trees := by
  cases h with
  | array hitems => exact ⟨_, rfl, hitems⟩

theorem Spelled.members {members : List (String × Json)} {tree : Written}
    (h : Spelled (.object members) tree) :
    ∃ trees, tree = .object trees ∧ List.Forall₂ SpelledMember members trees := by
  cases h with
  | object hmembers => exact ⟨_, rfl, hmembers⟩

def Prints (text : List Char) (value : Json) : Prop :=
  ∃ tree, Forms text (.value tree) ∧ Spelled value tree

def PrintsItems (text : List Char) (items : List Json) : Prop :=
  ∃ trees, Forms text (.items trees) ∧ List.Forall₂ Spelled items trees

def PrintsMembers (text : List Char) (members : List (String × Json)) : Prop :=
  ∃ trees, Forms text (.members trees) ∧ List.Forall₂ SpelledMember members trees

theorem prints_number {n : Number} (h : Integral (.number n)) : Prints n.text (.number n) := by
  cases h with
  | int n => exact ⟨_, forms_int n.value, .int n⟩

theorem prints_quote (s : String) : Prints (quote s) (.string s) := by
  obtain ⟨units, hdenotes, hunits⟩ := exists_denotes s
  exact ⟨_, .string hunits, .string hdenotes⟩

theorem PrintsItems.array {inner : List Char} {items : List Json} (h : PrintsItems inner items) :
    Prints ('[' :: inner ++ [']']) (.array items) := by
  obtain ⟨trees, hforms, hspelled⟩ := h
  exact ⟨_, .array hforms, .array hspelled⟩

theorem PrintsMembers.object {inner : List Char} {members : List (String × Json)}
    (h : PrintsMembers inner members) : Prints ('{' :: inner ++ ['}']) (.object members) := by
  obtain ⟨trees, hforms, hspelled⟩ := h
  exact ⟨_, .object hforms, .object hspelled⟩

section Separated
variable {lead text trail more : List Char} {value : Json} (hlead : Blanks lead)
  (h : Prints text value)
include hlead h

theorem Prints.lastItem (htrail : Blanks trail) : PrintsItems (lead ++ text ++ trail) [value] := by
  obtain ⟨tree, hforms, hspelled⟩ := h
  exact ⟨[tree], .lastItem (.item hlead hforms htrail), .cons hspelled .nil⟩

theorem Prints.moreItems {rest : List Json} (hmore : PrintsItems more rest) :
    PrintsItems (lead ++ text ++ ',' :: more) (value :: rest) := by
  obtain ⟨tree, hforms, hspelled⟩ := h
  obtain ⟨trees, hrest, hspelledRest⟩ := hmore
  have hitem := Forms.item hlead hforms blanks_nil
  rw [List.append_nil] at hitem
  exact ⟨tree :: trees, .moreItems hitem hrest, .cons hspelled hspelledRest⟩

variable (key : String) {gap : List Char} (hgap : Blanks gap)
include hgap

theorem Prints.lastMember (htrail : Blanks trail) :
    PrintsMembers (lead ++ quote key ++ ':' :: (gap ++ text ++ trail)) [(key, value)] := by
  obtain ⟨tree, hforms, hspelled⟩ := h
  obtain ⟨units, hdenotes, hunits⟩ := exists_denotes key
  have hmember := Forms.member hlead hunits blanks_nil (.item hgap hforms htrail)
  refine ⟨[(units, tree)], .lastMember ?_, .cons ⟨hdenotes, hspelled⟩ .nil⟩
  simpa [quote] using hmember

theorem Prints.moreMembers {rest : List (String × Json)} (hmore : PrintsMembers more rest) :
    PrintsMembers (lead ++ quote key ++ ':' :: (gap ++ text) ++ ',' :: more)
      ((key, value) :: rest) := by
  obtain ⟨tree, hforms, hspelled⟩ := h
  obtain ⟨trees, hrest, hspelledRest⟩ := hmore
  obtain ⟨units, hdenotes, hunits⟩ := exists_denotes key
  have hmember := Forms.member hlead hunits blanks_nil (.item hgap hforms blanks_nil)
  refine ⟨(units, tree) :: trees, .moreMembers ?_ hrest, .cons ⟨hdenotes, hspelled⟩ hspelledRest⟩
  simpa [quote] using hmember

end Separated

/-! ## The layouts -/

mutual

theorem prints_compactChars : ∀ value : Json, value.Integral → Prints value.compactChars value
  | .null, _ => ⟨_, .null, .null⟩
  | .bool true, _ => ⟨_, .true, .bool true⟩
  | .bool false, _ => ⟨_, .false, .bool false⟩
  | .number _, h => prints_number h
  | .string s, _ => prints_quote s
  | .array [], _ => ⟨_, .emptyArray blanks_nil, .array .nil⟩
  | .array (item :: rest), h =>
    (prints_compactItems (item :: rest) (List.cons_ne_nil _ _) h.items).array
  | .object [], _ => ⟨_, .emptyObject blanks_nil, .object .nil⟩
  | .object (member :: rest), h =>
    (prints_compactMembers (member :: rest) (List.cons_ne_nil _ _) h.members).object

theorem prints_compactItems : ∀ items : List Json, items ≠ [] → (∀ item ∈ items, Integral item) →
    PrintsItems (compactItems items) items
  | [], hne, _ => absurd rfl hne
  | [item], _, h => by
    have hitem := prints_compactChars item (h item List.mem_cons_self)
    simpa [compactItems] using hitem.lastItem blanks_nil blanks_nil
  | item :: next :: rest, _, h => by
    have hitem := prints_compactChars item (h item List.mem_cons_self)
    have hrest := prints_compactItems (next :: rest) (List.cons_ne_nil _ _)
      fun _ hnext => h _ (List.mem_cons_of_mem _ hnext)
    rw [compactItems]
    simpa using hitem.moreItems blanks_nil hrest

theorem prints_compactMembers : ∀ members : List (String × Json), members ≠ [] →
    (∀ member ∈ members, Integral member.2) → PrintsMembers (compactMembers members) members
  | [], hne, _ => absurd rfl hne
  | [(key, value)], _, h => by
    have hvalue := prints_compactChars value (h _ List.mem_cons_self)
    simpa [compactMembers] using hvalue.lastMember blanks_nil key blanks_nil blanks_nil
  | (key, value) :: next :: rest, _, h => by
    have hvalue := prints_compactChars value (h _ List.mem_cons_self)
    have hrest := prints_compactMembers (next :: rest) (List.cons_ne_nil _ _)
      fun _ hnext => h _ (List.mem_cons_of_mem _ hnext)
    rw [compactMembers]
    simpa using hvalue.moreMembers blanks_nil key blanks_nil hrest

end

theorem blanks_space : Blanks [' '] := by
  simp [Blanks]

mutual

theorem prints_prettyChars (level : Nat) :
    ∀ value : Json, value.Integral → Prints (prettyChars level value) value
  | .null, _ => ⟨_, .null, .null⟩
  | .bool true, _ => ⟨_, .true, .bool true⟩
  | .bool false, _ => ⟨_, .false, .bool false⟩
  | .number _, h => prints_number h
  | .string s, _ => prints_quote s
  | .array [], _ => ⟨_, .emptyArray blanks_nil, .array .nil⟩
  | .array (item :: rest), h =>
    (prints_prettyItems level (item :: rest) (List.cons_ne_nil _ _) h.items).array
  | .object [], _ => ⟨_, .emptyObject blanks_nil, .object .nil⟩
  | .object (member :: rest), h =>
    (prints_prettyMembers level (member :: rest) (List.cons_ne_nil _ _) h.members).object

theorem prints_prettyItems (level : Nat) : ∀ items : List Json, items ≠ [] →
    (∀ item ∈ items, Integral item) → PrintsItems (prettyItems level items ++ lineBreak level) items
  | [], hne, _ => absurd rfl hne
  | [item], _, h => by
    have hitem := prints_prettyChars (level + 1) item (h item List.mem_cons_self)
    simpa [prettyItems] using
      hitem.lastItem (blanks_lineBreak (level + 1)) (blanks_lineBreak level)
  | item :: next :: rest, _, h => by
    have hitem := prints_prettyChars (level + 1) item (h item List.mem_cons_self)
    have hrest := prints_prettyItems level (next :: rest) (List.cons_ne_nil _ _)
      fun _ hnext => h _ (List.mem_cons_of_mem _ hnext)
    rw [prettyItems]
    simpa using hitem.moreItems (blanks_lineBreak (level + 1)) hrest

theorem prints_prettyMembers (level : Nat) : ∀ members : List (String × Json), members ≠ [] →
    (∀ member ∈ members, Integral member.2) →
      PrintsMembers (prettyMembers level members ++ lineBreak level) members
  | [], hne, _ => absurd rfl hne
  | [(key, value)], _, h => by
    have hvalue := prints_prettyChars (level + 1) value (h _ List.mem_cons_self)
    simpa [prettyMembers] using hvalue.lastMember (blanks_lineBreak (level + 1)) key blanks_space
      (blanks_lineBreak level)
  | (key, value) :: next :: rest, _, h => by
    have hvalue := prints_prettyChars (level + 1) value (h _ List.mem_cons_self)
    have hrest := prints_prettyMembers level (next :: rest) (List.cons_ne_nil _ _)
      fun _ hnext => h _ (List.mem_cons_of_mem _ hnext)
    rw [prettyMembers]
    simpa using hvalue.moreMembers (blanks_lineBreak (level + 1)) key blanks_space hrest

end

theorem exists_textOf {value : Json} (h : value.Integral) {text : String}
    (htext : text = value.compact ∨ text = value.pretty) :
    ∃ tree, TextOf tree text ∧ Spelled value tree := by
  have hprints : Prints text.toList value := by
    rcases htext with rfl | rfl
    · rw [compact, String.toList_ofList]
      exact prints_compactChars value h
    · rw [pretty, String.toList_ofList]
      exact prints_prettyChars 0 value h
  obtain ⟨tree, hforms, hspelled⟩ := hprints
  have hitem := Forms.item blanks_nil hforms blanks_nil
  rw [List.nil_append, List.append_nil] at hitem
  exact ⟨tree, hitem, hspelled⟩

end TemplateAudit.Json
