import Mathlib.Data.Bool.AllAny
import TemplateAudit.Proofs.Decimal.Notation
import TemplateAudit.Yaml.Printer

/-!
# What written scalars stand for

The writer decides which strings are quoted and the reader decides what a scalar without quotes
stands for, each by a table of its own. Integers and doubles are read back. Strings are too, unless
they are digits in another base than ten behind a zero and a letter, of which the writer only knows
one form, or infinity behind plus signs, which it does not know at all.
-/

namespace TemplateAudit.Yaml

set_option autoImplicit false

open Decimal (digit? digits? signed)
open LineIndex (Digit Whole)

/-! ## Numbers -/

/-- A text of digits, of which the first is no zero unless it is the only one before the rest, with
an optional minus. -/
structure Numeral (s : String) (negative : Bool) (rest : List Char) : Prop where
  shape : ∃ whole, Whole whole ∧ s.toList = (if negative then ['-'] else []) ++ (whole ++ rest)

section Numerals
variable {s : String} {negative : Bool} {rest : List Char}

namespace Numeral

theorem signed (h : Numeral s negative rest) :
    ∃ whole, Whole whole ∧ signed s.toList = (negative, whole ++ rest) := by
  obtain ⟨whole, hwhole, hs⟩ := h.shape
  refine ⟨whole, hwhole, ?_⟩
  rw [hs]
  cases negative with
  | true => rfl
  | false =>
    cases hwhole with
    | zero => rfl
    | digits hc _ _ => exact Decimal.signed_of_digit hc _

/-- A text with a digit behind its sign is none of the words, whatever sign these have. -/
theorem ne_word (h : Numeral s negative rest) (word : String)
    (hword : Decimal.NoDigitFirst (Decimal.signed word.toList).2) : s ≠ word := by
  obtain ⟨whole, hwhole, hs⟩ := h.signed
  obtain ⟨hne, hdigits⟩ := Decimal.whole_digits hwhole
  obtain ⟨c, tail, rfl⟩ := List.exists_cons_of_ne_nil hne
  rintro rfl
  rw [hs] at hword
  exact hword c rfl (hdigits c List.mem_cons_self)

theorem based? (h : Numeral s negative rest)
    (hrest : ∀ c ∈ rest.head?, Scalar.base? c = none) : Scalar.based? s.toList = none := by
  obtain ⟨whole, hwhole, hs⟩ := h.shape
  rw [hs]
  cases hwhole with
  | zero =>
    cases rest with
    | nil => cases negative <;> rfl
    | cons letter after =>
      have hbase := hrest letter rfl
      cases negative <;> simp [Scalar.based?, hbase]
  | @digits c cs hc hzero _ =>
    have hplus : c ≠ '+' := Json.ne_of_digit hc (by decide)
    have hminus : c ≠ '-' := Json.ne_of_digit hc (by decide)
    cases negative <;> simp [Scalar.based?, hzero, hplus, hminus]

theorem isPadded (h : Numeral s negative rest) (hrest : ∀ c ∈ rest.head?, ¬ Digit c) :
    Scalar.isPadded s.toList = false := by
  obtain ⟨whole, hwhole, hs⟩ := h.signed
  rw [Scalar.isPadded, hs]
  cases hwhole with
  | zero =>
    cases rest with
    | nil => rfl
    | cons c after =>
      have hc : c.isDigit = false := by
        rw [← Bool.not_eq_true, Decimal.isDigit_iff]
        exact hrest c rfl
      simp [hc]
  | digits _ hzero _ => simp [hzero]

theorem dropPlus (h : Numeral s negative rest) : s.toList.dropWhile (· == '+') = s.toList := by
  obtain ⟨whole, hwhole, hs⟩ := h.shape
  rw [hs]
  cases negative with
  | true => rfl
  | false =>
    cases hwhole with
    | zero => rfl
    | digits hc _ _ =>
      exact List.dropWhile_cons_of_neg (by simpa using Json.ne_of_digit hc (by decide))

theorem double? (h : Numeral s negative rest) {x : Decimal.Finite}
    (hx : Decimal.double? s.toList = some (.finite x)) :
    Scalar.double? s.toList = some (.finite x) := by
  rw [Scalar.double?, h.dropPlus, String.ofList_toList, hx]
  simp only [decide_eq_false (h.ne_word ".inf" (by decide)),
    decide_eq_false (h.ne_word ".Inf" (by decide)),
    decide_eq_false (h.ne_word ".INF" (by decide)),
    decide_eq_false (h.ne_word "-.inf" (by decide)),
    decide_eq_false (h.ne_word "-.Inf" (by decide)),
    decide_eq_false (h.ne_word "-.INF" (by decide)),
    decide_eq_false (h.ne_word ".nan" (by decide)),
    decide_eq_false (h.ne_word ".NaN" (by decide)),
    decide_eq_false (h.ne_word ".NAN" (by decide)), Bool.or_self, Bool.false_eq_true, if_false]

theorem ofPlain (h : Numeral s negative rest) (hletter : ∀ c ∈ rest.head?, Scalar.base? c = none)
    (hdigit : ∀ c ∈ rest.head?, ¬ Digit c) :
    Scalar.ofPlain s = ((Decimal.integer? s.toList).bind (Scalar.ofInt? negative)).getD
      (((Scalar.double? s.toList).map .float).getD (.string s)) := by
  obtain ⟨whole, -, hs⟩ := h.signed
  simp only [Scalar.ofPlain, h.based? hletter, h.isPadded hdigit, hs,
    decide_eq_false (h.ne_word "~" (by decide)),
    decide_eq_false (h.ne_word "null" (by decide)),
    if_neg (h.ne_word "true" (by decide)), if_neg (h.ne_word "false" (by decide)),
    Bool.or_self, Bool.false_eq_true, if_false]
  cases (Decimal.integer? s.toList).bind (Scalar.ofInt? negative) with
  | some scalar => rfl
  | none => cases Scalar.double? s.toList <;> rfl

end Numeral

end Numerals

theorem toList_int (n : Int) :
    (toString n).toList =
      (if decide (n < 0) then ['-'] else []) ++ (Nat.toDigits 10 n.natAbs ++ []) := by
  rw [List.append_nil]
  cases n with
  | ofNat n => exact Nat.toList_repr
  | negSucc n =>
    rw [LineIndex.toString_negSucc, Nat.toString_eq_repr, Nat.toList_repr,
      decide_eq_true (Int.negSucc_lt_zero n)]
    rfl

theorem ofPlain_int (n : Integer) :
    Scalar.ofPlain (toString n.value) = .int n (decide (n.value < 0)) := by
  have hnumeral : Numeral (toString n.value) (decide (n.value < 0)) [] :=
    ⟨_, Json.whole_toDigits _, toList_int n.value⟩
  have hinteger : Decimal.integer? (toString n.value).toList = some n.value := by
    have hsigned := @Decimal.integer?_toString_natAbs n.value false
    rw [toList_int, List.append_nil]
    simpa using hsigned
  rw [hnumeral.ofPlain (by simp) (by simp), hinteger]
  simp only [Option.bind_some, Scalar.ofInt?, dif_pos n.inRange, Option.getD_some]

theorem ofPlain_double (x : Decimal.Double) :
    Scalar.ofPlain (String.ofList (doubleChars x)) = .float x := by
  cases x with
  | notANumber => rfl
  | infinite negative => cases negative <;> rfl
  | finite x =>
    obtain ⟨d, hwrites, -⟩ := Decimal.exists_writes .yaml x.magnitude
    obtain ⟨whole, mark, rest, hshape, hwhole, hmark⟩ := hwrites.shape
    have htext := Decimal.toList_finite .yaml x
    rw [hshape] at htext
    have hnumeral : Numeral (Decimal.Format.yaml.finite x) x.negative (mark :: rest) :=
      ⟨whole, hwhole, htext⟩
    have hmarkDigit : digit? 10 mark = none := by rcases hmark with rfl | rfl <;> decide
    have hinteger : Decimal.integer? (Decimal.Format.yaml.finite x).toList = none := by
      have hdigits : digits? 10 (whole ++ mark :: rest) = none :=
        Decimal.digits?_of_not_digit (by simp) hmarkDigit
      simp only [Decimal.integer?, Decimal.signed_finite, hshape, hdigits, Option.map_none]
    have hletter : Scalar.base? mark = none := by rcases hmark with rfl | rfl <;> rfl
    have hdigit : ¬ Digit mark := by rcases hmark with rfl | rfl <;> decide
    rw [doubleChars, String.ofList_toList, hnumeral.ofPlain (by simpa using hletter)
      (by simpa using hdigit), hinteger, hnumeral.double? (Decimal.double?_finite .yaml x)]
    rfl

/-! ## Strings -/

/-- A string that is written without quotes and read as another value. -/
inductive Misread : List Char → Json → Prop where
  /-- Digits in base 16, 8 or 2 with plus signs in front of the zero or behind the letter; without a
  sign in front, those in base 16 are quoted. -/
  | based {outer inner digits : List Char} {letter : Char} {base value : Nat}
      (fits : Fits64 (Int.ofNat value)) :
      outer = [] ∨ outer = ['+'] → inner = [] ∨ inner = ['+'] →
      Scalar.base? letter = some base → (outer = [] → letter ≠ 'x') →
      digits? base digits = some value →
      Misread (outer ++ '0' :: letter :: (inner ++ digits)) (.number (.int ⟨Int.ofNat value, fits⟩))
  | infinity {word : String} (count : Nat) : word ∈ [".inf", ".Inf", ".INF"] →
      Misread (List.replicate (count + 1) '+' ++ word.toList) .null

structure Unquoted (s : String) : Prop where
  ne : s.toList ≠ []
  head : ∀ c ∈ s.toList.head?, c ≠ ' ' ∧ isLeadingMark c = false
  last : ∀ c ∈ s.toList.getLast?, c ≠ ' '
  marks : ∀ c ∈ s.toList, isMark c = false
  word : s ∉ reservedWords
  hex : ¬ ['0', 'x'] <+: s.toList
  number : Decimal.double? s.toList = none

theorem needsQuotes_eq_false_iff (s : String) : needsQuotes s = false ↔ Unquoted s := by
  cases hs : s.toList with
  | nil =>
    refine ⟨fun h => ?_, fun h => absurd hs h.ne⟩
    simp [needsQuotes, hs] at h
  | cons first rest =>
    simp only [needsQuotes, hs, Bool.or_eq_false_iff]
    constructor
    · rintro ⟨⟨⟨⟨⟨⟨hspace, hlast⟩, hleading⟩, hmarks⟩, hword⟩, hhex⟩, hnumber⟩
      refine ⟨by simp [hs], ?_, ?_, ?_, by simpa using hword, ?_, ?_⟩
      · rw [hs]
        simpa [hleading] using hspace
      · intro c hc heq
        rw [hs, Option.mem_def, heq] at hc
        simp [hc] at hlast
      · rw [hs]
        simpa using hmarks
      · rw [hs, ← List.isPrefixOf_iff_prefix, hhex]
        exact Bool.false_ne_true
      · rw [hs]
        simpa [looksNumeric] using hnumber
    · rintro ⟨-, hhead, hlast, hmarks, hword, hhex, hnumber⟩
      rw [hs] at hhead hlast hmarks hhex hnumber
      obtain ⟨hspace, hleading⟩ := hhead first rfl
      refine ⟨⟨⟨⟨⟨⟨by simpa using hspace, ?_⟩, hleading⟩, ?_⟩, by simpa using hword⟩, ?_⟩, ?_⟩
      · rw [beq_eq_false_iff_ne]
        intro heq
        exact hlast ' ' heq rfl
      · simpa using hmarks
      · rwa [← Bool.not_eq_true, List.isPrefixOf_iff_prefix]
      · simpa [looksNumeric] using hnumber

theorem shape_of_unsigned? {base value : Nat} {cs : List Char}
    (h : Scalar.unsigned? base cs = some value) :
    ∃ inner digits, cs = inner ++ digits ∧ (inner = [] ∨ inner = ['+']) ∧
      digits? base digits = some value := by
  unfold Scalar.unsigned? at h
  split at h
  · exact ⟨['+'], _, rfl, .inr rfl, h⟩
  · exact ⟨[], _, rfl, .inl rfl, h⟩

namespace Unquoted
variable {s : String}

theorem ne_word (h : Unquoted s) (word : String) (hword : word ∈ reservedWords) : s ≠ word := by
  rintro rfl
  exact h.word hword

theorem integer?_eq_none (h : Unquoted s) : Decimal.integer? s.toList = none := by
  rw [Option.eq_none_iff_forall_ne_some]
  intro n hn
  have hdouble := Decimal.isSome_double?_of_integer? hn
  rw [h.number] at hdouble
  cases hdouble

theorem isPadded_eq_false (h : Unquoted s) : Scalar.isPadded s.toList = false := by
  rw [Scalar.isPadded]
  split
  · rename_i second rest heq
    rw [← Bool.not_eq_true]
    intro hall
    have hdigits : ∀ c ∈ '0' :: second :: rest, Digit c := by
      refine List.forall_mem_cons.mpr ⟨by decide, fun c hc => ?_⟩
      exact (Decimal.isDigit_iff c).mp (List.all_eq_true.mp hall c hc)
    have hinteger := h.integer?_eq_none
    simp only [Decimal.integer?, heq, Decimal.digits?_of_digits (List.cons_ne_nil _ _) hdigits] at hinteger
    cases hinteger
  · rfl

/-- What is left to the reader of a string without quotes: other bases and the special doubles. -/
theorem ofPlain (h : Unquoted s) :
    Scalar.ofPlain s =
      match (Scalar.based? s.toList).bind fun n =>
        if Fits64 n then Scalar.ofInt? (signed s.toList).1 n else none with
      | some scalar => scalar
      | none => match Scalar.double? s.toList with
        | some x => .float x
        | none => .string s := by
  simp only [Scalar.ofPlain, h.isPadded_eq_false, h.integer?_eq_none,
    decide_eq_false (h.ne_word "~" (by decide)),
    decide_eq_false (h.ne_word "null" (by decide)),
    if_neg (h.ne_word "true" (by decide)),
    if_neg (h.ne_word "false" (by decide)), Bool.or_self, Bool.false_eq_true, if_false]
  cases Scalar.based? s.toList <;> rfl

theorem misread_of_based? (h : Unquoted s) {n : Int} (hbased : Scalar.based? s.toList = some n)
    (hfits : Fits64 n) : Misread s.toList (.number (.int ⟨n, hfits⟩)) := by
  generalize hs : s.toList = cs at hbased
  unfold Scalar.based? at hbased
  split at hbased
  · have hleading := (h.head '-' (by rw [hs]; rfl)).2
    exact absurd hleading (by decide)
  · obtain ⟨base, hbase, hvalue⟩ := Option.bind_eq_some_iff.mp hbased
    obtain ⟨value, hunsigned, rfl⟩ := Option.map_eq_some_iff.mp hvalue
    obtain ⟨inner, digits, rfl, hinner, hdigits⟩ := shape_of_unsigned? hunsigned
    exact .based hfits (.inr rfl) hinner hbase (by simp) hdigits
  · rename_i letter rest
    obtain ⟨base, hbase, hvalue⟩ := Option.bind_eq_some_iff.mp hbased
    obtain ⟨value, hunsigned, rfl⟩ := Option.map_eq_some_iff.mp hvalue
    obtain ⟨inner, digits, rfl, hinner, hdigits⟩ := shape_of_unsigned? hunsigned
    refine @Misread.based [] _ _ _ _ _ hfits (.inl rfl) hinner hbase (fun _ hletter => h.hex ?_)
      hdigits
    rw [hs, hletter]
    exact ⟨_, rfl⟩
  · cases hbased

theorem misread_of_double? (h : Unquoted s) {x : Decimal.Double}
    (hdouble : Scalar.double? s.toList = some x) :
    Misread s.toList .null ∧ x = .infinite false := by
  have hhead {c : Char} {rest : List Char} (hs : s.toList = c :: rest) : isLeadingMark c = false :=
    (h.head c (by rw [hs]; rfl)).2
  have hnot (word : String) {c : Char} {rest : List Char} (hword : word.toList = c :: rest)
      (hleading : isLeadingMark c = true) : s ≠ word := by
    rintro rfl
    rw [hhead hword] at hleading
    cases hleading
  simp only [Scalar.double?, h.number, String.ofList_toList,
    decide_eq_false (hnot "-.inf" rfl rfl),
    decide_eq_false (hnot "-.Inf" rfl rfl),
    decide_eq_false (hnot "-.INF" rfl rfl),
    decide_eq_false (hnot ".nan" rfl rfl),
    decide_eq_false (hnot ".NaN" rfl rfl),
    decide_eq_false (hnot ".NAN" rfl rfl), Bool.or_self, Bool.false_eq_true,
    if_false] at hdouble
  split at hdouble
  · rename_i hword
    refine ⟨?_, (Option.some.inj hdouble).symm⟩
    obtain ⟨word, hmem, hdrop⟩ : ∃ word ∈ [".inf", ".Inf", ".INF"],
        String.ofList (s.toList.dropWhile (· == '+')) = word := by
      simpa [or_assoc] using hword
    have hplus : ∀ c ∈ s.toList.takeWhile (· == '+'), c = '+' := by
      intro c hc
      simpa using List.mem_takeWhile_imp hc
    have hsplit := List.takeWhile_append_dropWhile (p := (· == '+')) (l := s.toList)
    rw [List.eq_replicate_of_mem hplus, ← String.toList_ofList (l := s.toList.dropWhile _), hdrop]
      at hsplit
    cases hcount : (s.toList.takeWhile (· == '+')).length with
    | zero =>
      -- without a plus sign the string starts with a point and is quoted
      rw [hcount, List.replicate_zero, List.nil_append] at hsplit
      have hpoint : word.toList.head? = some '.' := by
        rcases (by simpa using hmem : word = ".inf" ∨ word = ".Inf" ∨ word = ".INF") with
          rfl | rfl | rfl <;> rfl
      rw [hsplit] at hpoint
      have hleading := (h.head '.' hpoint).2
      exact absurd hleading (by decide)
    | succ count =>
      rw [← hsplit, hcount]
      exact .infinity count hmem
  · cases hdouble

/-- A string without quotes is read as itself unless it is one of those that are misread. -/
theorem ofPlain_eq_or_misread (h : Unquoted s) :
    Scalar.ofPlain s = .string s ∨
      ∃ value, Misread s.toList value ∧ (Scalar.ofPlain s).json? = some value := by
  rw [h.ofPlain]
  cases hbased : (Scalar.based? s.toList).bind fun n =>
      if Fits64 n then Scalar.ofInt? (signed s.toList).1 n else none with
  | some scalar =>
    obtain ⟨n, hn, hscalar⟩ := Option.bind_eq_some_iff.mp hbased
    split at hscalar
    · rename_i hfits
      rw [Scalar.ofInt?, dif_pos hfits] at hscalar
      obtain rfl := Option.some.inj hscalar
      exact .inr ⟨_, h.misread_of_based? hn hfits, rfl⟩
    · cases hscalar
  | none =>
    cases hdouble : Scalar.double? s.toList with
    | none => exact .inl rfl
    | some x =>
      obtain ⟨hmisread, rfl⟩ := h.misread_of_double? hdouble
      exact .inr ⟨_, hmisread, rfl⟩

end Unquoted

theorem bounds_of_digit? {base value : Nat} {c : Char} (hbase : base ≤ 16)
    (h : digit? base c = some value) :
    (48 ≤ c.toNat ∧ c.toNat ≤ 57) ∨ (97 ≤ c.toNat ∧ c.toNat ≤ 102) ∨
      (65 ≤ c.toNat ∧ c.toNat ≤ 70) := by
  simp only [digit?, Option.ite_none_right_eq_some] at h
  obtain ⟨hsmall, -⟩ := h
  repeat' split at hsmall
  all_goals omega

theorem not_isMark_of_digit? {base value : Nat} {c : Char} (hbase : base ≤ 16)
    (h : digit? base c = some value) : c ≠ ' ' ∧ isMark c = false := by
  have hbounds := bounds_of_digit? hbase h
  have hne (d : Char) (hd : ¬ ((48 ≤ d.toNat ∧ d.toNat ≤ 57) ∨ (97 ≤ d.toNat ∧ d.toNat ≤ 102) ∨
      (65 ≤ d.toNat ∧ d.toNat ≤ 70))) : c ≠ d := by
    rintro rfl
    exact hd hbounds
  have hlisted : ":\x7b\x7d[],#\"'\\\t\n\r".toList.contains c = false := by
    rw [List.contains_eq_mem, decide_eq_false_iff_not]
    intro hmem
    have hmarks : ∀ d ∈ ":\x7b\x7d[],#\"'\\\t\n\r".toList,
        ¬ ((48 ≤ d.toNat ∧ d.toNat ≤ 57) ∨ (97 ≤ d.toNat ∧ d.toNat ≤ 102) ∨
          (65 ≤ d.toNat ∧ d.toNat ≤ 70)) := List.all_iff_forall_prop.mp (by decide)
    exact hmarks c hmem hbounds
  refine ⟨hne ' ' (by decide), ?_⟩
  simp only [isMark, hlisted, Bool.false_or, Bool.or_eq_false_iff, Bool.and_eq_false_iff,
    beq_eq_false_iff_ne, decide_eq_false_iff_not]
  omega

theorem base?_eq_some {letter : Char} {base : Nat} (h : Scalar.base? letter = some base) :
    base ≤ 16 ∧ letter ∈ ['x', 'o', 'b'] := by
  unfold Scalar.base? at h
  split at h <;> cases h <;> simp

theorem ne_reservedWord {s : String} (h : s.toList.head? = some '0' ∨ s.toList.head? = some '+') :
    s ∉ reservedWords := by
  have hwords : ∀ word ∈ reservedWords, word.toList.head? ≠ some '0' ∧
      word.toList.head? ≠ some '+' := by decide
  intro hmem
  obtain ⟨hzero, hplus⟩ := hwords s hmem
  exact h.elim hzero hplus

theorem double?_based {outer rest : List Char} {letter : Char} (houter : outer = [] ∨ outer = ['+'])
    (hletter : letter ∈ ['x', 'o', 'b']) :
    Decimal.double? (outer ++ '0' :: letter :: rest) = none := by
  have hsigned : signed (outer ++ '0' :: letter :: rest) = (false, '0' :: letter :: rest) := by
    rcases houter with rfl | rfl <;> rfl
  have hzero : Digit '0' := by decide
  have hinf := Decimal.ne_word_of_digit hzero (letter :: rest) "inf" (by decide)
  have hinfinity := Decimal.ne_word_of_digit hzero (letter :: rest) "infinity" (by decide)
  have hnan := Decimal.ne_word_of_digit hzero (letter :: rest) "nan" (by decide)
  have hunsigned : Decimal.unsigned? ('0' :: letter :: rest) = none := by
    rcases (by simpa using hletter : letter = 'x' ∨ letter = 'o' ∨ letter = 'b') with
      rfl | rfl | rfl <;> simp [Decimal.unsigned?, Decimal.power?]
  simp only [Decimal.double?, hsigned, decide_eq_false hinf, decide_eq_false hinfinity, if_neg hnan,
    hunsigned, Bool.or_self, Bool.false_eq_true, if_false, Option.map_none]

theorem double?_infinity {word : String} (hword : word ∈ [".inf", ".Inf", ".INF"]) (count : Nat) :
    Decimal.double? (List.replicate (count + 1) '+' ++ word.toList) = none := by
  cases count with
  | zero =>
    rcases (by simpa using hword : word = ".inf" ∨ word = ".Inf" ∨ word = ".INF") with
      rfl | rfl | rfl <;> rfl
  | succ count =>
    have hne {rest : List Char} (other : String) (hother : other.toList.head? ≠ some '+') :
        String.ofList (('+' :: rest).map Char.toLower) ≠ other := by
      rintro rfl
      rw [String.toList_ofList] at hother
      exact hother rfl
    simp only [List.replicate_succ, List.cons_append, Decimal.double?, signed,
      decide_eq_false (hne "inf" (by decide)),
      decide_eq_false (hne "infinity" (by decide)),
      if_neg (hne "nan" (by decide)), Bool.or_self, Bool.false_eq_true, if_false]
    rfl

theorem based?_based {outer inner digits : List Char} {letter : Char} {base value : Nat}
    (houter : outer = [] ∨ outer = ['+']) (hinner : inner = [] ∨ inner = ['+'])
    (hbase : Scalar.base? letter = some base) (hdigits : digits? base digits = some value) :
    Scalar.based? (outer ++ '0' :: letter :: (inner ++ digits)) = some (Int.ofNat value) := by
  have hunsigned : Scalar.unsigned? base (inner ++ digits) = some value := by
    rcases hinner with rfl | rfl
    · rw [List.nil_append]
      unfold Scalar.unsigned?
      split
      · have hplus : digit? base '+' = none := by simp [digit?, (base?_eq_some hbase).1]
        rw [Decimal.digits?_of_not_digit List.mem_cons_self hplus] at hdigits
        cases hdigits
      · exact hdigits
    · exact hdigits
  rcases houter with rfl | rfl <;> simp [Scalar.based?, hbase, hunsigned]

theorem double?_plusSigns {word : String} (hword : word ∈ [".inf", ".Inf", ".INF"]) (count : Nat) :
    Scalar.double? (List.replicate count '+' ++ word.toList) = some (.infinite false) := by
  have hdrop : (List.replicate count '+' ++ word.toList).dropWhile (· == '+') = word.toList := by
    rw [List.dropWhile_append_of_pos fun c hc => by simp [List.eq_of_mem_replicate hc]]
    rcases (by simpa using hword : word = ".inf" ∨ word = ".Inf" ∨ word = ".INF") with
      rfl | rfl | rfl <;> rfl
  have hinf : (decide (word = ".inf") || decide (word = ".Inf") || decide (word = ".INF")) = true := by
    simpa [or_assoc] using hword
  simp only [Scalar.double?, hdrop, String.ofList_toList, hinf, if_true]

namespace Misread
variable {s : String} {value : Json}

theorem mem (h : Misread s.toList value) {c : Char} (hc : c ∈ s.toList) :
    c ≠ ' ' ∧ isMark c = false := by
  generalize s.toList = cs at h hc
  cases h with
  | @based outer inner digits letter base value _ houter hinner hbase _ hdigits =>
    obtain ⟨hbound, hletter⟩ := base?_eq_some hbase
    have hsign {sign : List Char} (hsign : sign = [] ∨ sign = ['+']) (hmem : c ∈ sign) :
        c ≠ ' ' ∧ isMark c = false := by
      rcases hsign with rfl | rfl
      · cases hmem
      · obtain rfl := List.mem_singleton.mp hmem
        decide
    simp only [List.mem_append, List.mem_cons] at hc
    rcases hc with hc | rfl | rfl | hc | hc
    · exact hsign houter hc
    · decide
    · have hletters : ∀ d ∈ ['x', 'o', 'b'], d ≠ ' ' ∧ isMark d = false :=
        List.all_iff_forall_prop.mp (by decide)
      exact hletters c hletter
    · exact hsign hinner hc
    · cases hdigit : digit? base c with
      | none =>
        rw [Decimal.digits?_of_not_digit hc hdigit] at hdigits
        cases hdigits
      | some d => exact not_isMark_of_digit? hbound hdigit
  | @infinity word count hword =>
    rcases List.mem_append.mp hc with hc | hc
    · rw [List.eq_of_mem_replicate hc]
      decide
    · have hwords : ∀ word ∈ [".inf", ".Inf", ".INF"],
          (word.toList.all fun d => decide (d ≠ ' ' ∧ isMark d = false)) = true := by decide
      exact List.all_iff_forall_prop.mp (hwords word hword) c hc

theorem head (h : Misread s.toList value) :
    s.toList.head? = some '0' ∨ s.toList.head? = some '+' := by
  generalize s.toList = cs at h
  cases h with
  | based _ houter => rcases houter with rfl | rfl <;> simp
  | infinity count => simp [List.replicate_succ]

/-- The writer takes none of the strings that are misread for anything else. -/
theorem unquoted (h : Misread s.toList value) : Unquoted s := by
  have hhead := h.head
  refine ⟨?_, ?_, ?_, fun c hc => (h.mem hc).2, ne_reservedWord hhead, ?_, ?_⟩
  · intro hnil
    simp [hnil] at hhead
  · intro c hc
    refine ⟨(h.mem (List.mem_of_mem_head? hc)).1, ?_⟩
    rcases hhead with heq | heq
    all_goals
      rw [heq] at hc
      cases hc
      decide
  · exact fun c hc => (h.mem (List.mem_of_mem_getLast? hc)).1
  · generalize s.toList = cs at h
    cases h with
    | based _ houter _ _ hletter =>
      rcases houter with rfl | rfl
      · simpa [eq_comm] using hletter
      · simp
    | infinity count => simp [List.replicate_succ]
  · generalize s.toList = cs at h
    cases h with
    | based _ houter _ hbase => exact double?_based houter (base?_eq_some hbase).2
    | infinity count hword => exact double?_infinity hword count

theorem ofPlain (h : Misread s.toList value) : (Scalar.ofPlain s).json? = some value := by
  rw [h.unquoted.ofPlain]
  generalize s.toList = cs at h
  cases h with
  | based hfits houter hinner hbase _ hdigits =>
    rw [based?_based houter hinner hbase hdigits, Option.bind_some, if_pos hfits, Scalar.ofInt?,
      dif_pos hfits]
    rfl
  | @infinity word count hword =>
    have hbased : Scalar.based? (List.replicate (count + 1) '+' ++ word.toList) = none := by
      cases count with
      | zero =>
        rcases (by simpa using hword : word = ".inf" ∨ word = ".Inf" ∨ word = ".INF") with
          rfl | rfl | rfl <;> rfl
      | succ count => rfl
    rw [hbased, double?_plusSigns hword]
    rfl

end Misread

/-- A written string is read as one value, and as itself exactly when it is none of those that are
misread. -/
theorem read?_string (s : String) :
    ∃ value, (Scalar.read? (!needsQuotes s) none s).bind Scalar.json? = some value ∧
      (value = .string s ↔ ∀ other, ¬ Misread s.toList other) := by
  rw [Scalar.read?, Option.bind_some]
  cases hquotes : needsQuotes s with
  | true =>
    refine ⟨.string s, rfl, iff_of_true rfl fun other hmisread => ?_⟩
    rw [(needsQuotes_eq_false_iff s).mpr hmisread.unquoted] at hquotes
    cases hquotes
  | false =>
    have hunquoted := (needsQuotes_eq_false_iff s).mp hquotes
    rcases hunquoted.ofPlain_eq_or_misread with hself | ⟨value, hmisread, hvalue⟩
    · have hread : (Scalar.ofPlain s).json? = some (.string s) := by rw [hself]; rfl
      refine ⟨.string s, hread, iff_of_true rfl fun other hmisread => ?_⟩
      rw [hmisread.ofPlain] at hread
      obtain rfl := Option.some.inj hread
      generalize s.toList = cs at hmisread
      cases hmisread
    · refine ⟨value, hvalue, iff_of_false ?_ fun h => h value hmisread⟩
      rintro rfl
      generalize s.toList = cs at hmisread
      cases hmisread

end TemplateAudit.Yaml
