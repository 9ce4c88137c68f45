import TemplateAudit.Proofs.Yaml.Scanning

/-!
# Tokens of written values

The tokens of a written value follow its structure: a block collection starts and ends with a token
of its own, an item stands behind its mark, and an entry is a key and a value, each behind its mark.
All keys are strings. They can be read back as long as each is written in at most 1024 characters.
-/

namespace TemplateAudit.Yaml

set_option autoImplicit false

namespace Value

/-- Whether a scalar is written without quotes, and its text. -/
def scalar? : Value → Option (Bool × String)
  | .null => some (true, "~")
  | .bool b => some (true, if b then "true" else "false")
  | .int n _ => some (true, toString n.value)
  | .float x => some (true, String.ofList (doubleChars x))
  | .string s => some (!needsQuotes s, s)
  | .sequence _ => none
  | .mapping _ => none

def record (members : List (String × Value)) : Value :=
  .mapping (members.map fun m => (.string m.1, m.2))

inductive Keyed : Value → Prop where
  | scalar {value : Value} : value.scalar?.isSome → Keyed value
  | sequence {items : List Value} : (∀ item ∈ items, Keyed item) → Keyed (.sequence items)
  | record {members : List (String × Value)} : (∀ m ∈ members, Keyed m.2) → Keyed (record members)

mutual

def tokens : Value → List Token
  | .sequence items =>
    if items.isEmpty then [.flowSequenceStart, .flowSequenceEnd]
    else .blockSequenceStart :: (itemTokens items ++ [.blockEnd])
  | .mapping entries =>
    if entries.isEmpty then [.flowMappingStart, .flowMappingEnd]
    else .blockMappingStart :: (entryTokens entries ++ [.blockEnd])
  | value => value.scalar?.toList.map fun text => .scalar text.1 text.2

def itemTokens : List Value → List Token
  | [] => []
  | item :: rest => .blockEntry :: (tokens item ++ itemTokens rest)

def entryTokens : List (Value × Value) → List Token
  | [] => []
  | (key, value) :: rest => .key :: (tokens key ++ .value :: (tokens value ++ entryTokens rest))

end

mutual

/-- Every key is written in at most 1024 characters. -/
def keysFit : Value → Bool
  | .sequence items => itemsFit items
  | .mapping entries => entriesFit entries
  | _ => true

def itemsFit : List Value → Bool
  | [] => true
  | item :: rest => keysFit item && itemsFit rest

def entriesFit : List (Value × Value) → Bool
  | [] => true
  | (key, value) :: rest =>
    decide ((chars 0 key).length ≤ 1024) && (keysFit value && entriesFit rest)

end

/-! ## Scalars -/

theorem scalarText_chars {value : Value} {plain : Bool} {text : String}
    (h : value.scalar? = some (plain, text)) (level : Nat) :
    ScalarText plain text (chars level value) := by
  cases value with
  | null =>
    cases h
    rw [chars]
    exact .plain (plainScalar_of_all (by decide) (by decide) (by decide))
  | bool b =>
    cases h
    cases b <;> rw [chars] <;>
      exact .plain (plainScalar_of_all (by decide) (by decide) (by decide))
  | int n _ =>
    cases h
    rw [chars]
    exact .plain (plainScalar_int n.value)
  | float x =>
    cases h
    rw [chars]
    exact scalarText_plain (plainScalar_double x)
  | string s =>
    cases h
    rw [chars]
    exact scalarText_string _
  | sequence => cases h
  | mapping => cases h

theorem tokens_of_scalar? {value : Value} {plain : Bool} {text : String}
    (h : value.scalar? = some (plain, text)) : value.tokens = [.scalar plain text] := by
  cases value with
  | sequence => cases h
  | mapping => cases h
  | _ => simp [tokens, h]

theorem keysFit_of_scalar? {value : Value} (h : value.scalar?.isSome) : value.keysFit = true := by
  cases value with
  | sequence => cases h
  | mapping => cases h
  | _ => simp [keysFit]

theorem solid_dash (rest : List Char) : Solid ('-' :: rest) := by
  intro c hc
  obtain rfl : '-' = c := by simpa using hc
  decide

/-- A written value starts with something. -/
theorem Keyed.solid {value : Value} (h : Keyed value) (level : Nat) (rest : List Char) :
    Solid (chars level value ++ rest) ∧ chars level value ≠ [] := by
  have hmark {c : Char} {tail : List Char} (hc : isGap c = false ∧ c ≠ '#') :
      Solid (c :: tail) := by
    intro d hd
    obtain rfl : c = d := by simpa using hd
    exact hc
  cases h with
  | @scalar value hscalar =>
    obtain ⟨⟨plain, text⟩, hleaf⟩ := Option.isSome_iff_exists.mp hscalar
    have htext := scalarText_chars hleaf level
    exact ⟨htext.solid rest, htext.ne⟩
  | @sequence items _ =>
    cases items with
    | nil =>
      rw [chars]
      exact ⟨hmark (by decide), by simp⟩
    | cons item items =>
      rw [chars]
      exact ⟨hmark (by decide), by simp⟩
  | @record members _ =>
    cases members with
    | nil =>
      rw [Value.record, List.map_nil, chars]
      exact ⟨hmark (by decide), by simp⟩
    | cons m members =>
      rw [Value.record, List.map_cons, chars, chars, List.append_assoc, List.append_assoc]
      have htext := scalarText_string m.1
      exact ⟨htext.solid _, by simp [htext.ne]⟩

/-! ## Values -/

open Scanner

/-- A written value that a line ends takes the scanner to the next line. -/
def Scans (value : Value) : Prop :=
  ∀ {level column indent : Nat} {keyAllowed : Bool} {b : Blocks} {more : List Char} {s : Scanner},
    (value.isBlock = true → keyAllowed = true ∧ column = 2 * level) → b.margin ≤ column →
    indent < b.margin → Solid more →
    At (chars level value ++ '\n' :: (List.replicate indent ' ' ++ more)) column keyAllowed b s →
    Leads (At more indent true ((b.pushAll value.tokens).close (indent + 1)))
      (chars level value).length value.keysFit s

theorem scans_scalar {value : Value} (h : value.scalar?.isSome) : Scans value := by
  intro level column indent keyAllowed b more s _ hmargin hindent hmore hat
  obtain ⟨⟨plain, text⟩, hleaf⟩ := Option.isSome_iff_exists.mp h
  have htext := scalarText_chars hleaf level
  obtain ⟨s', hnext, hs'⟩ := hat.scalar htext hindent hmargin hmore
  have hend := hat.not_atEnd (htext.solid _) (List.append_ne_nil_of_left_ne_nil htext.ne _)
  rw [keysFit_of_scalar? h, tokens_of_scalar? hleaf]
  exact (Leads.step hend hnext (.here hs')).mono (List.length_pos_iff.mpr htext.ne)

section Blocks
variable {level indent : Nat} {more : List Char}

theorem scans_item (hindent : indent ≤ 2 * level) (hmore : Solid more) {item : Value}
    (hkeyed : Keyed item) (hscans : Scans item) {b : Blocks} {s : Scanner}
    (hmargin : b.margin ≤ 2 * level + 1)
    (hat : At ('-' :: ' ' :: (chars (level + 1) item ++
      '\n' :: (List.replicate indent ' ' ++ more))) (2 * level) true b s) :
    Leads (At more indent true (((b.openAt (2 * level) .blockSequenceStart).pushAll
        (.blockEntry :: item.tokens)).close (indent + 1)))
      ((chars (level + 1) item).length + 1) item.keysFit s := by
  obtain ⟨s', hnext, hs'⟩ := hat.dash (hkeyed.solid _ _).1 hmargin
  have hend := hat.not_atEnd (solid_dash _) (List.cons_ne_nil _ _)
  have hopened := @Blocks.margin_openAt b (2 * level) .blockSequenceStart hmargin
  rw [Blocks.pushAll_cons]
  refine .step hend hnext (hscans (by simp; omega) ?_ ?_ hmore hs')
  all_goals
    rw [Blocks.push_margin, hopened]
    omega

/-- The items of a sequence, the first of which stands where the scanner is. -/
theorem scans_items (hindent : indent ≤ 2 * level) (hmore : Solid more) {item : Value}
    {rest : List Value} (hall : ∀ value ∈ item :: rest, Keyed value ∧ Scans value) {b : Blocks}
    {s : Scanner} (hmargin : b.margin ≤ 2 * level + 1)
    (hat : At (('-' :: ' ' :: chars (level + 1) item) ++ itemChars level rest ++
      '\n' :: (List.replicate indent ' ' ++ more)) (2 * level) true b s) :
    Leads (At more indent true (((b.openAt (2 * level) .blockSequenceStart).pushAll
        (itemTokens (item :: rest))).close (indent + 1)))
      (('-' :: ' ' :: chars (level + 1) item) ++ itemChars level rest).length
      (itemsFit (item :: rest)) s := by
  induction rest generalizing item b s with
  | nil =>
    obtain ⟨⟨hkeyed, hscans⟩, -⟩ := List.forall_mem_cons.mp hall
    simp only [itemChars, List.append_nil, List.cons_append] at hat ⊢
    rw [itemsFit, itemsFit, Bool.and_true, itemTokens, itemTokens, List.append_nil]
    exact (scans_item hindent hmore hkeyed hscans hmargin hat).mono (by simp)
  | cons next rest ih =>
    obtain ⟨⟨hkeyed, hscans⟩, hrest⟩ := List.forall_mem_cons.mp hall
    rw [itemChars, Json.lineBreak] at hat ⊢
    simp only [List.cons_append, List.append_assoc] at hat ih
    have hitem := scans_item (Nat.le_refl _) (solid_dash _) hkeyed hscans hmargin hat
    have hopened := @Blocks.margin_openAt b (2 * level) .blockSequenceStart hmargin
    -- The next item stands in the same column, so the sequence stays open and its mark opens none.
    rw [Blocks.close_of_le (by rw [Blocks.pushAll_margin, hopened])] at hitem
    have hlater := hitem.trans fun s' hs' => ih hrest
      (by rw [Blocks.pushAll_margin, hopened]) hs'
    rw [Blocks.openAt_of_lt (by rw [Blocks.pushAll_margin, hopened]; omega),
      ← Blocks.pushAll_append] at hlater
    rw [itemsFit, itemTokens]
    refine hlater.mono ?_
    simp
    omega

/-- The value of an entry starts on the line of its key or on the next one. -/
theorem gap_argumentChars (level : Nat) (value : Value) (rest : List Char) :
    ∃ gap ∈ (argumentChars level value ++ rest).head?, isGap gap = true := by
  rw [argumentChars]
  split
  · exact ⟨'\n', rfl, rfl⟩
  · exact ⟨' ', rfl, rfl⟩

theorem scans_argument (hindent : indent ≤ 2 * level) (hmore : Solid more) {value : Value}
    (hkeyed : Keyed value) (hscans : Scans value) {column : Nat} {b : Blocks} {s : Scanner}
    (hmargin : b.margin = 2 * level + 1) (hcolumn : 2 * level < column)
    (hat : At (argumentChars level value ++ '\n' :: (List.replicate indent ' ' ++ more)) column false
      b s) :
    ∃ s', s.settle? = some s' ∧
      Leads (At more indent true ((b.pushAll value.tokens).close (indent + 1)))
        (argumentChars level value).length value.keysFit s' := by
  rw [argumentChars] at hat ⊢
  cases hblock : value.isBlock with
  | true =>
    rw [hblock] at hat
    simp only [if_true, Json.lineBreak, List.cons_append, List.append_assoc] at hat
    obtain ⟨s', hsettle, hs'⟩ := hat.settle_line (hkeyed.solid _ _).1
    rw [Blocks.close_of_le (by omega)] at hs'
    have hvalue := hscans (fun _ => ⟨rfl, rfl⟩) (by omega) (by omega) hmore hs'
    exact ⟨s', hsettle, hvalue.mono (by simp)⟩
  | false =>
    rw [hblock] at hat
    simp only [Bool.false_eq_true, if_false, List.cons_append] at hat
    obtain ⟨s', hsettle, hs'⟩ := hat.settle_space (hkeyed.solid _ _).1
    rw [Blocks.close_of_le (by omega)] at hs'
    have hvalue := hscans (by simp [hblock]) (by omega) (by omega) hmore hs'
    exact ⟨s', hsettle, hvalue.mono (by simp)⟩

/-- A key is not taken for a mark of a document. -/
theorem head_stringChars (key : String) : ∀ c ∈ (stringChars key).head?, c ≠ '-' ∧ c ≠ '.' := by
  intro c hc
  rw [stringChars] at hc
  cases hquotes : needsQuotes key with
  | true =>
    rw [hquotes] at hc
    obtain rfl : '"' = c := by simpa using hc
    decide
  | false =>
    rw [hquotes] at hc
    have hleading := (((needsQuotes_eq_false_iff key).mp hquotes).head c hc).2
    constructor
    all_goals
      rintro rfl
      exact absurd hleading (by decide)

theorem scans_entry (hindent : indent ≤ 2 * level) (hmore : Solid more) {m : String × Value}
    (hkeyed : Keyed m.2) (hscans : Scans m.2) {b : Blocks} {s : Scanner}
    (hmargin : b.margin ≤ 2 * level + 1)
    (hat : At (stringChars m.1 ++ ':' :: (argumentChars level m.2 ++
      '\n' :: (List.replicate indent ' ' ++ more))) (2 * level) true b s) :
    Leads (At more indent true (((b.openAt (2 * level) .blockMappingStart).pushAll
        (.key :: (tokens (.string m.1) ++ .value :: tokens m.2))).close (indent + 1)))
      ((argumentChars level m.2).length + 2)
      (decide ((stringChars m.1).length ≤ 1024) && keysFit m.2) s := by
  have hopened := @Blocks.margin_openAt b (2 * level) .blockMappingStart hmargin
  have hkey := hat.mappingKey (scalarText_string m.1) (head_stringChars m.1) hmargin
    (gap_argumentChars _ _ _) fun s' hs' => scans_argument hindent hmore hkeyed hscans
      (by rw [Blocks.pushAll_margin, hopened]) (Nat.lt_succ_of_le (Nat.le_add_right _ _)) hs'
  rw [← Blocks.pushAll_append] at hkey
  rw [@tokens_of_scalar? (.string m.1) _ _ rfl]
  exact hkey

/-- The entries of a mapping, the first of which stands where the scanner is. -/
theorem scans_entries (hindent : indent ≤ 2 * level) (hmore : Solid more) {m : String × Value}
    {rest : List (String × Value)} (hall : ∀ entry ∈ m :: rest, Keyed entry.2 ∧ Scans entry.2)
    {b : Blocks} {s : Scanner} (hmargin : b.margin ≤ 2 * level + 1)
    (hat : At ((stringChars m.1 ++ ':' :: argumentChars level m.2) ++
      entryChars level (rest.map fun m => (.string m.1, m.2)) ++
      '\n' :: (List.replicate indent ' ' ++ more)) (2 * level) true b s) :
    Leads (At more indent true (((b.openAt (2 * level) .blockMappingStart).pushAll
        (entryTokens ((m :: rest).map fun m => (.string m.1, m.2)))).close (indent + 1)))
      ((stringChars m.1 ++ ':' :: argumentChars level m.2) ++
        entryChars level (rest.map fun m => (.string m.1, m.2))).length
      (entriesFit ((m :: rest).map fun m => (.string m.1, m.2))) s := by
  -- An entry takes two steps before its value: the colon pays for one, its key for the other.
  have hlength (key : String) : 0 < (stringChars key).length :=
    List.length_pos_iff.mpr (scalarText_string key).ne
  induction rest generalizing m b s with
  | nil =>
    obtain ⟨⟨hkeyed, hscans⟩, -⟩ := List.forall_mem_cons.mp hall
    simp only [List.map_nil, entryChars, List.append_nil, List.append_assoc, List.cons_append]
      at hat ⊢
    rw [List.map_singleton, entriesFit, entriesFit, Bool.and_true, chars, entryTokens, entryTokens,
      List.append_nil]
    refine (scans_entry hindent hmore hkeyed hscans hmargin hat).mono ?_
    have hpos := hlength m.1
    simp
    omega
  | cons next rest ih =>
    obtain ⟨⟨hkeyed, hscans⟩, hrest⟩ := List.forall_mem_cons.mp hall
    simp only [List.map_cons, entryChars, Json.lineBreak, chars, List.cons_append,
      List.append_assoc] at hat ih ⊢
    have hentry := scans_entry (Nat.le_refl _) ((scalarText_string next.1).solid _) hkeyed hscans
      hmargin hat
    have hopened := @Blocks.margin_openAt b (2 * level) .blockMappingStart hmargin
    rw [Blocks.close_of_le (by rw [Blocks.pushAll_margin, hopened])] at hentry
    have hlater := hentry.trans fun s' hs' => ih hrest
      (by rw [Blocks.pushAll_margin, hopened]) hs'
    rw [Blocks.openAt_of_lt (by rw [Blocks.pushAll_margin, hopened]; omega),
      ← Blocks.pushAll_append] at hlater
    rw [entriesFit, entryTokens, chars, ← Bool.and_assoc]
    simp only [List.cons_append, List.append_assoc] at hlater
    refine hlater.mono ?_
    have hpos := hlength m.1
    simp
    omega

end Blocks

theorem scans_of_keyed {value : Value} (h : Keyed value) : Scans value := by
  induction h with
  | scalar hscalar => exact scans_scalar hscalar
  | @sequence items hitems ih =>
    intro level column indent keyAllowed b more s hblock hmargin hindent hmore hat
    cases items with
    | nil =>
      rw [chars] at hat ⊢
      have hflow := hat.emptyFlow .sequence hmore
      simpa [tokens, keysFit, itemsFit] using hflow
    | cons item rest =>
      obtain ⟨rfl, rfl⟩ := hblock rfl
      rw [chars] at hat ⊢
      have hleads := scans_items (by omega) hmore
        (fun value hvalue => ⟨hitems value hvalue, ih value hvalue⟩) (by omega) hat
      rw [Blocks.close_openAt hmargin (by omega)] at hleads
      simpa [tokens, keysFit] using hleads
  | @record members hmembers ih =>
    intro level column indent keyAllowed b more s hblock hmargin hindent hmore hat
    cases members with
    | nil =>
      rw [record, List.map_nil, chars] at hat ⊢
      have hflow := hat.emptyFlow .mapping hmore
      simpa [tokens, keysFit, entriesFit] using hflow
    | cons m rest =>
      obtain ⟨rfl, rfl⟩ := hblock rfl
      rw [record, List.map_cons, chars, chars] at hat ⊢
      have hleads := scans_entries (by omega) hmore
        (fun entry hentry => ⟨hmembers entry hentry, ih entry hentry⟩) (by omega) hat
      rw [Blocks.close_openAt hmargin (by omega)] at hleads
      simpa [tokens, keysFit] using hleads

/-! ## Documents -/

/-- The tokens of a written record, which cannot be read when one of its keys is too long. -/
theorem scan?_render {members : List (String × Value)} (hne : members ≠ [])
    (hkeyed : ∀ m ∈ members, Keyed m.2) :
    Token.scan? (record members).render =
      if (record members).keysFit then some (.documentStart :: (record members).tokens)
      else none := by
  obtain ⟨m, rest, rfl⟩ := List.exists_cons_of_ne_nil hne
  have hrecord := Keyed.record hkeyed
  have htext : (record (m :: rest)).render.toList =
      '-' :: '-' :: '-' :: '\n' :: (chars 0 (record (m :: rest)) ++ ['\n']) := by
    simp [render, String.toList_append]
  obtain ⟨s, hat, hstart⟩ := tokens?_start (hrecord.solid 0 ['\n']).1
  have hentries : Leads (At [] 0 true (((Blocks.mk 0 [] [.documentStart]).openAt (2 * 0)
      .blockMappingStart).pushAll (entryTokens ((m :: rest).map fun m => (.string m.1, m.2))) |>.close
        1)) (chars 0 (record (m :: rest))).length
      (entriesFit ((m :: rest).map fun m => (.string m.1, m.2))) s := by
    rw [record, List.map_cons, chars, chars] at hat ⊢
    exact scans_entries (Nat.le_refl 0) (fun _ hc => by cases hc)
      (fun entry hentry => ⟨hkeyed entry hentry, scans_of_keyed (hkeyed entry hentry)⟩)
      (Nat.zero_le 1) hat
  rw [Blocks.close_of_le (Nat.le_refl 1)] at hentries
  have hfit : (record (m :: rest)).keysFit =
      entriesFit ((m :: rest).map fun m => (.string m.1, m.2)) := by rw [record, keysFit]
  have hfuel : (chars 0 (record (m :: rest))).length ≤
      ('-' :: '-' :: '-' :: '\n' :: (chars 0 (record (m :: rest)) ++ ['\n'])).length := by
    simp
    omega
  rw [Token.scan?, htext, hstart, hfit]
  cases hok : entriesFit ((m :: rest).map fun m => (.string m.1, m.2)) with
  | true =>
    rw [hok] at hentries
    obtain ⟨s', left, hend, hresume⟩ := hentries.exists_resume? hfuel
    rw [hresume, hend.resume?_end left, Blocks.close_openAt (Nat.le_refl 0) (Nat.le_refl 0),
      Blocks.close_of_le (Nat.le_refl 0), if_pos rfl]
    simp [Blocks.pushAll, record, tokens]
  | false =>
    rw [hok] at hentries
    exact hentries.resume?_none hfuel

end Value

end TemplateAudit.Yaml
