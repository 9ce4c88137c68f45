import TemplateAudit.Proofs.LineIndex.Malformed

/-!
# JSON texts and their trees

`Forms text phrase` is the grammar of JSON with the tree that each stretch of a text stands for, its
spelling kept. The reader takes every text of the grammar to its tree, by induction on the
derivation; two units of fuel a character are enough.
-/

namespace TemplateAudit.Json

set_option autoImplicit false

open Written
open LineIndex (Blanks Digit Whole Fraction Exponent NumberChar Stops endsScalar blanks_iff
  succ_of_fuel Opens OpensLater)

/-! ## The grammar -/

def digitValues (cs : List Char) : List Nat :=
  cs.map fun c => c.toNat - 48

def fractionDigits : List Char → Option (List Nat)
  | [] => none
  | _ :: cs => some (digitValues cs)

def exponentDigits : List Char → Option (Bool × List Nat)
  | [] => none
  | _ :: '-' :: cs => some (true, digitValues cs)
  | _ :: '+' :: cs => some (false, digitValues cs)
  | _ :: cs => some (false, digitValues cs)

/-- A number of which the parts are written so. -/
def NumberText.ofParts (negative : Bool) (whole fraction exponent : List Char) : NumberText :=
  ⟨negative, digitValues whole, fractionDigits fraction, exponentDigits exponent⟩

/-- What a stretch of a text stands for. -/
inductive Phrase where
  | value (tree : Written)
  /-- A value with the blanks around it. -/
  | item (tree : Written)
  /-- The items of an array, at least one. -/
  | items (trees : List Written)
  /-- A member with the blanks around it. -/
  | member (key : List StringUnit) (tree : Written)
  /-- The members of an object, at least one. -/
  | members (trees : List (List StringUnit × Written))

inductive Forms : List Char → Phrase → Prop where
  | null : Forms ['n', 'u', 'l', 'l'] (.value .null)
  | true : Forms ['t', 'r', 'u', 'e'] (.value (.bool true))
  | false : Forms ['f', 'a', 'l', 's', 'e'] (.value (.bool false))
  | number {whole fraction exponent : List Char} :
      Whole whole → Fraction fraction → Exponent exponent →
      Forms (whole ++ fraction ++ exponent)
        (.value (.number (.ofParts false whole fraction exponent)))
  | negative {whole fraction exponent : List Char} :
      Whole whole → Fraction fraction → Exponent exponent →
      Forms ('-' :: whole ++ fraction ++ exponent)
        (.value (.number (.ofParts true whole fraction exponent)))
  | string {body : List Char} {units : List StringUnit} :
      Units body units → Forms ('"' :: body ++ ['"']) (.value (.string units))
  | emptyArray {gap : List Char} : Blanks gap → Forms ('[' :: gap ++ [']']) (.value (.array []))
  | array {inner : List Char} {trees : List Written} :
      Forms inner (.items trees) → Forms ('[' :: inner ++ [']']) (.value (.array trees))
  | emptyObject {gap : List Char} : Blanks gap → Forms ('{' :: gap ++ ['}']) (.value (.object []))
  | object {inner : List Char} {trees : List (List StringUnit × Written)} :
      Forms inner (.members trees) → Forms ('{' :: inner ++ ['}']) (.value (.object trees))
  | item {lead text trail : List Char} {tree : Written} :
      Blanks lead → Forms text (.value tree) → Blanks trail →
      Forms (lead ++ text ++ trail) (.item tree)
  | lastItem {text : List Char} {tree : Written} :
      Forms text (.item tree) → Forms text (.items [tree])
  | moreItems {text more : List Char} {tree : Written} {trees : List Written} :
      Forms text (.item tree) → Forms more (.items trees) →
      Forms (text ++ ',' :: more) (.items (tree :: trees))
  | member {lead body gap text : List Char} {key : List StringUnit} {tree : Written} :
      Blanks lead → Units body key → Blanks gap → Forms text (.item tree) →
      Forms (lead ++ '"' :: body ++ '"' :: gap ++ ':' :: text) (.member key tree)
  | lastMember {text : List Char} {key : List StringUnit} {tree : Written} :
      Forms text (.member key tree) → Forms text (.members [(key, tree)])
  | moreMembers {text more : List Char} {key : List StringUnit} {tree : Written}
      {trees : List (List StringUnit × Written)} :
      Forms text (.member key tree) → Forms more (.members trees) →
      Forms (text ++ ',' :: more) (.members ((key, tree) :: trees))

def TextOf (tree : Written) (text : String) : Prop :=
  Forms text.toList (.item tree)

/-! ## Blanks -/

theorem skipBlanks_blanks {ws : List Char} (hws : Blanks ws) (cs : List Char) :
    skipBlanks (ws ++ cs) = skipBlanks cs :=
  List.dropWhile_append_of_pos (blanks_iff.mp hws)

theorem skipBlanks_cons {c : Char} (h : Text.isJsonBlank c = false) (cs : List Char) :
    skipBlanks (c :: cs) = c :: cs :=
  List.dropWhile_cons_of_neg (by simp [h])

theorem skipBlanks_gap {ws : List Char} (hws : Blanks ws) {c : Char}
    (h : Text.isJsonBlank c = false) (cs : List Char) : skipBlanks (ws ++ c :: cs) = c :: cs := by
  rw [skipBlanks_blanks hws, skipBlanks_cons h]

/-- What can follow a value with its blanks: the end, or what separates or closes. -/
def Ends (rest : List Char) : Prop :=
  Stops rest ∧ skipBlanks rest = rest

theorem ends_nil : Ends [] :=
  ⟨by simp [Stops], rfl⟩

theorem ends_cons {c : Char} (h : endsScalar c = true ∧ Text.isJsonBlank c = false)
    (rest : List Char) : Ends (c :: rest) :=
  ⟨by simpa [Stops] using h.1, skipBlanks_cons h.2 rest⟩

/-! ## Numbers -/

instance (c : Char) : Decidable (Digit c) :=
  inferInstanceAs (Decidable (_ ∧ _))

theorem ne_of_digit {c d : Char} (h : Digit c) (hd : ¬ Digit d) : c ≠ d := by
  rintro rfl
  exact hd h

theorem digits_append {cs rest : List Char} (hcs : ∀ c ∈ cs, Digit c)
    (hrest : ∀ c ∈ rest.head?, ¬ Digit c) : digits (cs ++ rest) = (digitValues cs, rest) := by
  induction cs with
  | nil =>
    cases rest with
    | nil => rfl
    | cons c rest =>
      have hc : digit? c = none := if_neg (hrest c rfl)
      simp only [List.nil_append, digits, hc, digitValues, List.map_nil]
  | cons c cs ih =>
    obtain ⟨hc, hcs⟩ := List.forall_mem_cons.mp hcs
    have hdigit : digit? c = some (c.toNat - 48) := if_pos hc
    simp only [List.cons_append, digits, hdigit, ih hcs, digitValues, List.map_cons]

theorem digits1?_append {cs rest : List Char} (hne : cs ≠ []) (hcs : ∀ c ∈ cs, Digit c)
    (hrest : ∀ c ∈ rest.head?, ¬ Digit c) :
    digits1? (cs ++ rest) = some (digitValues cs, rest) := by
  obtain ⟨c, cs, rfl⟩ := List.exists_cons_of_ne_nil hne
  rw [digits1?, digits_append hcs hrest]
  rfl

theorem whole?_append {cs rest : List Char} (h : Whole cs) (hrest : ∀ c ∈ rest.head?, ¬ Digit c) :
    whole? (cs ++ rest) = some (digitValues cs, rest) := by
  cases h with
  | zero => rfl
  | @digits c cs hc hzero hcs =>
    have hall : ∀ d ∈ c :: cs, Digit d := List.forall_mem_cons.mpr ⟨hc, hcs⟩
    rw [← digits1?_append (List.cons_ne_nil c cs) hall hrest]
    simp [whole?, hzero]

theorem fraction?_append {cs rest : List Char} (h : Fraction cs)
    (hrest : ∀ c ∈ rest.head?, ¬ Digit c ∧ c ≠ '.') :
    fraction? (cs ++ rest) = some (fractionDigits cs, rest) := by
  cases h with
  | absent =>
    cases rest with
    | nil => rfl
    | cons c rest => simp [fraction?, fractionDigits, (hrest c rfl).2]
  | point hne hcs =>
    simp only [List.cons_append, fraction?, fractionDigits,
      digits1?_append hne hcs fun c hc => (hrest c hc).1, Option.map_some]

theorem exponent?_append {cs rest : List Char} (h : Exponent cs)
    (hrest : ∀ c ∈ rest.head?, ¬ NumberChar c) :
    exponent? (cs ++ rest) = some (exponentDigits cs, rest) := by
  have hdigit : ∀ c ∈ rest.head?, ¬ Digit c := fun c hc hd => hrest c hc hd.numberChar
  cases h with
  | absent =>
    cases rest with
    | nil => rfl
    | cons c rest =>
      have hsmall : c ≠ 'e' := by
        rintro rfl
        exact hrest 'e' rfl (by decide)
      have hlarge : c ≠ 'E' := by
        rintro rfl
        exact hrest 'E' rfl (by decide)
      simp [exponent?, exponentDigits, hsmall, hlarge]
  | @unsigned letter cs hletter hne hcs =>
    obtain ⟨d, ds, rfl⟩ := List.exists_cons_of_ne_nil hne
    have hd := hcs d List.mem_cons_self
    -- The first digit is not taken for a sign.
    have hplus : d ≠ '+' := ne_of_digit hd (by decide)
    have hminus : d ≠ '-' := ne_of_digit hd (by decide)
    have hsign : exponentSign (d :: ds ++ rest) = (false, d :: ds ++ rest) := by
      simp [exponentSign, hplus, hminus]
    have hdigits : exponentDigits (letter :: d :: ds) = some (false, digitValues (d :: ds)) := by
      simp [exponentDigits, hplus, hminus]
    rw [List.cons_append, exponent?, if_pos (by simpa using hletter), hsign, hdigits]
    simp only [digits1?_append hne hcs hdigit, Option.map_some]
  | @signed letter sign cs hletter hsign hne hcs =>
    rw [List.cons_append, exponent?, if_pos (by simpa using hletter)]
    rcases hsign with rfl | rfl
    · simp only [List.cons_append, exponentSign, digits1?_append hne hcs hdigit, Option.map_some,
        exponentDigits]
    · simp only [List.cons_append, exponentSign, digits1?_append hne hcs hdigit, Option.map_some,
        exponentDigits]

theorem not_numberChar_of_stops {rest : List Char} (h : Stops rest) :
    ∀ c ∈ rest.head?, ¬ NumberChar c := by
  intro c hc hnumber
  have hends := h c hc
  rw [LineIndex.endsScalar_eq_false_iff.mpr ⟨hnumber.ne (by decide), hnumber.ne (by decide),
    hnumber.ne (by decide), hnumber.not_blank⟩] at hends
  cases hends

theorem head_of_exponent {cs rest : List Char} (h : Exponent cs)
    (hrest : ∀ c ∈ rest.head?, ¬ NumberChar c) :
    ∀ c ∈ (cs ++ rest).head?, ¬ Digit c ∧ c ≠ '.' := by
  have hletter : ∀ {c : Char}, c = 'e' ∨ c = 'E' → ¬ Digit c ∧ c ≠ '.' := by
    rintro c (rfl | rfl) <;> decide
  intro c hc
  cases h with
  | absent =>
    refine ⟨fun hd => hrest c hc hd.numberChar, ?_⟩
    rintro rfl
    exact hrest '.' hc (by decide)
  | unsigned he =>
    obtain rfl := Option.some.inj hc
    exact hletter he
  | signed he =>
    obtain rfl := Option.some.inj hc
    exact hletter he

theorem head_of_fraction {cs rest : List Char} (h : Fraction cs)
    (hrest : ∀ c ∈ rest.head?, ¬ Digit c) : ∀ c ∈ (cs ++ rest).head?, ¬ Digit c := by
  intro c hc
  cases h with
  | absent => exact hrest c hc
  | point =>
    obtain rfl := Option.some.inj hc
    decide

theorem number?_append {whole fraction exponent rest : List Char} (hwhole : Whole whole)
    (hfraction : Fraction fraction) (hexponent : Exponent exponent) (hrest : Stops rest)
    (negative : Bool) :
    number? negative (whole ++ fraction ++ exponent ++ rest) =
      some (.ofParts negative whole fraction exponent, rest) := by
  -- Each part ends where the next begins, so what follows is settled from the last part on.
  have hstop := not_numberChar_of_stops hrest
  have hhead := head_of_exponent hexponent hstop
  have hwhole? := whole?_append hwhole (head_of_fraction hfraction fun c hc => (hhead c hc).1)
  simp only [List.append_assoc, number?, hwhole?, fraction?_append hfraction hhead,
    exponent?_append hexponent hstop, Option.bind_eq_bind, Option.bind_some]
  rfl

/-! ## Reading a phrase -/

/-- What the reader makes of a text, given two units of fuel a character. -/
def ReadAs (text : List Char) : Phrase → Prop
  | .value tree => ∀ fuel rest, 2 * text.length ≤ fuel + 1 → Stops rest →
      value? fuel (text ++ rest) = some (tree, rest)
  | .item tree => ∀ fuel rest, 2 * text.length ≤ fuel + 1 → Ends rest →
      ∃ after, value? fuel (skipBlanks (text ++ rest)) = some (tree, after) ∧
        skipBlanks after = rest
  | .items trees => ∀ fuel rest, 2 * text.length ≤ fuel →
      items? fuel (skipBlanks (text ++ ']' :: rest)) = some (trees, rest)
  | .member key tree => ∀ fuel rest, 2 * text.length ≤ fuel + 1 → Ends rest →
      ∃ afterQuote afterKey afterColon after,
        skipBlanks (text ++ rest) = '"' :: afterQuote ∧
        stringUnits? afterQuote = some (key, afterKey) ∧
        skipBlanks afterKey = ':' :: afterColon ∧
        value? fuel (skipBlanks afterColon) = some (tree, after) ∧ skipBlanks after = rest
  | .members trees => ∀ fuel rest, 2 * text.length ≤ fuel →
      members? fuel (skipBlanks (text ++ '}' :: rest)) = some (trees, rest)

theorem value?_digit {c : Char} (hc : Digit c) (fuel : Nat) (cs : List Char) :
    value? (fuel + 1) (c :: cs) =
      (number? false (c :: cs)).map fun (n, after) => (.number n, after) := by
  have hne : ∀ d : Char, ¬ Digit d → c ≠ d := fun d => ne_of_digit hc
  simp [value?, hne, Digit]

theorem readAs_number {whole fraction exponent : List Char} (hwhole : Whole whole)
    (hfraction : Fraction fraction) (hexponent : Exponent exponent) :
    ReadAs (whole ++ fraction ++ exponent)
      (.value (.number (.ofParts false whole fraction exponent))) := by
  intro fuel rest hfuel hrest
  have hnumber := number?_append hwhole hfraction hexponent hrest false
  obtain ⟨c, tail, hcons, hc⟩ : ∃ c tail, whole ++ fraction ++ exponent = c :: tail ∧ Digit c := by
    cases hwhole with
    | zero => exact ⟨'0', _, rfl, by decide⟩
    | digits hc => exact ⟨_, _, rfl, hc⟩
  rw [hcons] at hfuel hnumber ⊢
  obtain ⟨fuel, rfl⟩ := succ_of_fuel hfuel
  rw [List.cons_append, value?_digit hc, ← List.cons_append, hnumber]
  rfl

theorem readAs_negative {whole fraction exponent : List Char} (hwhole : Whole whole)
    (hfraction : Fraction fraction) (hexponent : Exponent exponent) :
    ReadAs ('-' :: whole ++ fraction ++ exponent)
      (.value (.number (.ofParts true whole fraction exponent))) := by
  intro fuel rest hfuel hrest
  have hnumber := number?_append hwhole hfraction hexponent hrest true
  obtain ⟨fuel, rfl⟩ := succ_of_fuel hfuel
  simp only [List.cons_append, value?, hnumber, Option.map_some]

theorem readAs_string {body : List Char} {units : List StringUnit} (h : Units body units) :
    ReadAs ('"' :: body ++ ['"']) (.value (.string units)) := by
  intro fuel rest hfuel hrest
  obtain ⟨fuel, rfl⟩ := succ_of_fuel hfuel
  simp only [List.cons_append, List.append_assoc, List.nil_append, value?,
    stringUnits?_of_units h, Option.map_some]

theorem readAs_emptyArray {gap : List Char} (h : Blanks gap) :
    ReadAs ('[' :: gap ++ [']']) (.value (.array [])) := by
  intro fuel rest hfuel hrest
  obtain ⟨fuel, rfl⟩ := succ_of_fuel hfuel
  simp only [List.cons_append, List.append_assoc, List.nil_append, value?,
    skipBlanks_gap h (show Text.isJsonBlank ']' = false by decide)]

theorem readAs_emptyObject {gap : List Char} (h : Blanks gap) :
    ReadAs ('{' :: gap ++ ['}']) (.value (.object [])) := by
  intro fuel rest hfuel hrest
  obtain ⟨fuel, rfl⟩ := succ_of_fuel hfuel
  simp only [List.cons_append, List.append_assoc, List.nil_append, value?,
    skipBlanks_gap h (show Text.isJsonBlank '}' = false by decide)]

/-! ## Containers -/

theorem Forms.value_opens {text : List Char} {tree : Written} (h : Forms text (.value tree)) :
    ∃ c rest, text = c :: rest ∧ Opens c := by
  cases h with
  | null => exact ⟨'n', _, rfl, by decide⟩
  | true => exact ⟨'t', _, rfl, by decide⟩
  | false => exact ⟨'f', _, rfl, by decide⟩
  | number hwhole hfraction hexponent =>
    have hword := (LineIndex.Scalar.number hwhole hfraction hexponent).word
    obtain ⟨c, rest, hcons⟩ := List.exists_cons_of_ne_nil hword.nonempty
    rw [hcons] at hword
    exact ⟨c, rest, hcons, hword.opens⟩
  | negative => exact ⟨'-', _, rfl, by decide⟩
  | string => exact ⟨'"', _, rfl, by decide⟩
  | emptyArray => exact ⟨'[', _, rfl, by decide⟩
  | array => exact ⟨'[', _, rfl, by decide⟩
  | emptyObject => exact ⟨'{', _, rfl, by decide⟩
  | object => exact ⟨'{', _, rfl, by decide⟩

theorem Forms.item_opens {text : List Char} {tree : Written} (h : Forms text (.item tree)) :
    OpensLater text := by
  cases h with
  | @item lead _ trail _ hlead hvalue =>
    obtain ⟨c, rest, rfl, hopens⟩ := hvalue.value_opens
    exact ⟨lead, c, rest ++ trail, hlead, by simp, hopens⟩

theorem Forms.items_open {text : List Char} {trees : List Written} (h : Forms text (.items trees)) :
    OpensLater text := by
  cases h with
  | lastItem hitem => exact hitem.item_opens
  | moreItems hitem => exact hitem.item_opens.append _

theorem Forms.member_opens {text : List Char} {key : List StringUnit} {tree : Written}
    (h : Forms text (.member key tree)) : OpensLater text := by
  cases h with
  | @member lead body gap text _ _ hlead =>
    exact ⟨lead, '"', body ++ '"' :: gap ++ ':' :: text, hlead, by simp, by decide⟩

theorem Forms.members_open {text : List Char} {trees : List (List StringUnit × Written)}
    (h : Forms text (.members trees)) : OpensLater text := by
  cases h with
  | lastMember hmember => exact hmember.member_opens
  | moreMembers hmember => exact hmember.member_opens.append _

theorem skipBlanks_opens {text : List Char} (h : OpensLater text) :
    ∃ c rest, skipBlanks text = c :: rest ∧ Opens c := by
  obtain ⟨lead, c, rest, hlead, rfl, hopens⟩ := h
  exact ⟨c, rest, skipBlanks_gap hlead hopens.1 rest, hopens⟩

theorem readAs_array {inner : List Char} {trees : List Written} (hopen : OpensLater inner)
    (ih : ReadAs inner (.items trees)) :
    ReadAs ('[' :: inner ++ [']']) (.value (.array trees)) := by
  intro fuel rest hfuel hrest
  obtain ⟨fuel, rfl⟩ := succ_of_fuel hfuel
  simp only [List.cons_append, List.length_cons, List.length_append, List.length_nil] at hfuel
  obtain ⟨c, tail, hskip, hopens⟩ := skipBlanks_opens (hopen.append (']' :: rest))
  have hitems := ih fuel rest (by omega)
  rw [hskip] at hitems
  simp [value?, hskip, hitems, hopens.2.2.1]

theorem readAs_object {inner : List Char} {trees : List (List StringUnit × Written)}
    (hopen : OpensLater inner) (ih : ReadAs inner (.members trees)) :
    ReadAs ('{' :: inner ++ ['}']) (.value (.object trees)) := by
  intro fuel rest hfuel hrest
  obtain ⟨fuel, rfl⟩ := succ_of_fuel hfuel
  simp only [List.cons_append, List.length_cons, List.length_append, List.length_nil] at hfuel
  obtain ⟨c, tail, hskip, hopens⟩ := skipBlanks_opens (hopen.append ('}' :: rest))
  have hmembers := ih fuel rest (by omega)
  rw [hskip] at hmembers
  simp [value?, hskip, hmembers, hopens.2.2.2]

theorem readAs_item {lead text trail : List Char} {tree : Written} (hlead : Blanks lead)
    (hvalue : Forms text (.value tree)) (htrail : Blanks trail) (ih : ReadAs text (.value tree)) :
    ReadAs (lead ++ text ++ trail) (.item tree) := by
  intro fuel rest hfuel hrest
  simp only [List.length_append] at hfuel
  have hread := ih fuel (trail ++ rest) (by omega) (LineIndex.stops_of_blanks htrail hrest.1)
  obtain ⟨c, tail, rfl, hopens⟩ := hvalue.value_opens
  refine ⟨trail ++ rest, ?_, ?_⟩
  · rw [List.append_assoc, List.append_assoc, List.cons_append, skipBlanks_gap hlead hopens.1]
    exact hread
  · rw [skipBlanks_blanks htrail, hrest.2]

theorem readAs_member {lead body gap text : List Char} {key : List StringUnit} {tree : Written}
    (hlead : Blanks lead) (hbody : Units body key) (hgap : Blanks gap)
    (ih : ReadAs text (.item tree)) :
    ReadAs (lead ++ '"' :: body ++ '"' :: gap ++ ':' :: text) (.member key tree) := by
  intro fuel rest hfuel hrest
  simp only [List.length_append, List.length_cons] at hfuel
  obtain ⟨after, hvalue, hafter⟩ := ih fuel rest (by omega) hrest
  refine ⟨body ++ '"' :: (gap ++ ':' :: (text ++ rest)), gap ++ ':' :: (text ++ rest), text ++ rest,
    after, ?_, stringUnits?_of_units hbody _, skipBlanks_gap hgap (by decide) _, hvalue, hafter⟩
  simp only [List.append_assoc, List.cons_append]
  exact skipBlanks_gap hlead (by decide) _

theorem succ_of_opensLater {text : List Char} {fuel : Nat} (h : OpensLater text)
    (hfuel : 2 * text.length ≤ fuel) : ∃ less, fuel = less + 1 := by
  obtain ⟨lead, c, rest, -, rfl, -⟩ := h
  simp only [List.length_append, List.length_cons] at hfuel
  exact ⟨fuel - 1, by omega⟩

theorem endsScalar_marks :
    ∀ c ∈ [',', ']', '}'], endsScalar c = true ∧ Text.isJsonBlank c = false := by
  intro c hc
  simp only [List.mem_cons, List.not_mem_nil, or_false] at hc
  rcases hc with rfl | rfl | rfl <;> decide

theorem readAs_lastItem {text : List Char} {tree : Written} (hopen : OpensLater text)
    (ih : ReadAs text (.item tree)) : ReadAs text (.items [tree]) := by
  intro fuel rest hfuel
  obtain ⟨fuel, rfl⟩ := succ_of_opensLater hopen hfuel
  obtain ⟨after, hvalue, hafter⟩ := ih fuel (']' :: rest) (by omega)
    (ends_cons (endsScalar_marks ']' (by simp)) rest)
  simp only [items?, hvalue, hafter]

theorem readAs_moreItems {text more : List Char} {tree : Written} {trees : List Written}
    (hopen : OpensLater text) (ih : ReadAs text (.item tree))
    (ihmore : ReadAs more (.items trees)) :
    ReadAs (text ++ ',' :: more) (.items (tree :: trees)) := by
  intro fuel rest hfuel
  obtain ⟨fuel, rfl⟩ := succ_of_opensLater (hopen.append _) hfuel
  simp only [List.length_append, List.length_cons] at hfuel
  obtain ⟨after, hvalue, hafter⟩ := ih fuel (',' :: (more ++ ']' :: rest)) (by omega)
    (ends_cons (endsScalar_marks ',' (by simp)) _)
  simp only [List.append_assoc, List.cons_append, items?, hvalue, hafter,
    ihmore fuel rest (by omega), Option.map_some]

theorem readAs_lastMember {text : List Char} {key : List StringUnit} {tree : Written}
    (hopen : OpensLater text) (ih : ReadAs text (.member key tree)) :
    ReadAs text (.members [(key, tree)]) := by
  intro fuel rest hfuel
  obtain ⟨fuel, rfl⟩ := succ_of_opensLater hopen hfuel
  obtain ⟨afterQuote, afterKey, afterColon, after, hquote, hkey, hcolon, hvalue, hafter⟩ :=
    ih fuel ('}' :: rest) (by omega) (ends_cons (endsScalar_marks '}' (by simp)) rest)
  simp only [members?, hquote, hkey, hcolon, hvalue, hafter]

theorem readAs_moreMembers {text more : List Char} {key : List StringUnit} {tree : Written}
    {trees : List (List StringUnit × Written)} (hopen : OpensLater text)
    (ih : ReadAs text (.member key tree)) (ihmore : ReadAs more (.members trees)) :
    ReadAs (text ++ ',' :: more) (.members ((key, tree) :: trees)) := by
  intro fuel rest hfuel
  obtain ⟨fuel, rfl⟩ := succ_of_opensLater (hopen.append _) hfuel
  simp only [List.length_append, List.length_cons] at hfuel
  obtain ⟨afterQuote, afterKey, afterColon, after, hquote, hkey, hcolon, hvalue, hafter⟩ :=
    ih fuel (',' :: (more ++ '}' :: rest)) (by omega)
      (ends_cons (endsScalar_marks ',' (by simp)) _)
  simp only [List.append_assoc, List.cons_append, members?, hquote, hkey, hcolon, hvalue, hafter,
    ihmore fuel rest (by omega), Option.map_some]

/-! ## Whole texts -/

theorem Forms.readAs {text : List Char} {phrase : Phrase} (h : Forms text phrase) :
    ReadAs text phrase := by
  induction h with
  | null =>
    intro fuel rest hfuel _
    obtain ⟨fuel, rfl⟩ := succ_of_fuel hfuel
    rfl
  | true =>
    intro fuel rest hfuel _
    obtain ⟨fuel, rfl⟩ := succ_of_fuel hfuel
    rfl
  | false =>
    intro fuel rest hfuel _
    obtain ⟨fuel, rfl⟩ := succ_of_fuel hfuel
    rfl
  | number hwhole hfraction hexponent => exact readAs_number hwhole hfraction hexponent
  | negative hwhole hfraction hexponent => exact readAs_negative hwhole hfraction hexponent
  | string hbody => exact readAs_string hbody
  | emptyArray hgap => exact readAs_emptyArray hgap
  | array hinner ih => exact readAs_array hinner.items_open ih
  | emptyObject hgap => exact readAs_emptyObject hgap
  | object hinner ih => exact readAs_object hinner.members_open ih
  | item hlead hvalue htrail ih => exact readAs_item hlead hvalue htrail ih
  | lastItem hitem ih => exact readAs_lastItem hitem.item_opens ih
  | moreItems hitem _ ih ihmore => exact readAs_moreItems hitem.item_opens ih ihmore
  | member hlead hbody hgap _ ih => exact readAs_member hlead hbody hgap ih
  | lastMember hmember ih => exact readAs_lastMember hmember.member_opens ih
  | moreMembers hmember _ ih ihmore => exact readAs_moreMembers hmember.member_opens ih ihmore

/-- The reader takes every text to its tree. -/
theorem TextOf.read? {tree : Written} {text : String} (h : TextOf tree text) :
    Written.read? text.toList = some tree := by
  obtain ⟨after, hvalue, hafter⟩ :=
    h.readAs (2 * text.toList.length + 2) [] (by omega) ends_nil
  rw [List.append_nil] at hvalue
  simp only [Written.read?, hvalue, hafter, List.isEmpty_nil, if_true]

end TemplateAudit.Json
