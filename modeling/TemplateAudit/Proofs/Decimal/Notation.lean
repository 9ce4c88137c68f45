import TemplateAudit.Decimal.Reader
import TemplateAudit.Proofs.Decimal.Rounding
import TemplateAudit.Proofs.Json.Printing

/-!
# Decimals that are read back

A double is written with a point or an exponent, never as an integer. The decimal that stands in the
text denotes the same number as the shortest one, so reading it gives the double again, whatever
powers of ten the format writes without an exponent.
-/

namespace TemplateAudit.Decimal

set_option autoImplicit false

open LineIndex (Digit Whole)
open Json (head_toDigits digit_of_mem_toDigits)

/-! ## Digits -/

def digitsValue (cs : List Char) : Nat :=
  Nat.ofDigitChars 10 cs 0

theorem isDigit_iff (c : Char) : c.isDigit = true ↔ Digit c := by
  simp [Char.isDigit, Digit, UInt32.le_iff_toNat_le]

theorem digit?_of_digit {c : Char} (h : Digit c) : digit? 10 c = some (c.toNat - 48) := by
  have hbounds : 48 ≤ c.toNat ∧ c.toNat ≤ 57 := h
  simp only [digit?, if_pos hbounds]
  exact if_pos (by omega)

theorem digits?_of_digits {cs : List Char} (hne : cs ≠ []) (h : ∀ c ∈ cs, Digit c) :
    digits? 10 cs = some (digitsValue cs) := by
  have hvalues : cs.mapM (digit? 10) = some (cs.map fun c => c.toNat - 48) := by
    clear hne
    induction cs with
    | nil => rfl
    | cons c rest ih =>
      obtain ⟨hc, hrest⟩ := List.forall_mem_cons.mp h
      simp [digit?_of_digit hc, ih hrest]
  rw [digits?, if_neg (by simpa using hne), hvalues, Option.map_some, List.foldl_map, digitsValue,
    Nat.ofDigitChars_eq_foldl]
  simp only [Nat.mul_comm]
  rfl

theorem digits?_of_not_digit {base : Nat} {cs : List Char} {c : Char} (hc : c ∈ cs)
    (h : digit? base c = none) : digits? base cs = none := by
  have hvalues : cs.mapM (digit? base) = none := by
    induction cs with
    | nil => cases hc
    | cons d rest ih =>
      rcases List.mem_cons.mp hc with rfl | hrest
      · simp [h]
      · simp [ih hrest]
  rw [digits?, hvalues, Option.map_none, ite_self]

theorem digit_of_digit? {c : Char} {n : Nat} (h : digit? 10 c = some n) : Digit c := by
  simp only [digit?, Option.ite_none_right_eq_some] at h
  obtain ⟨hsmall, -⟩ := h
  split at hsmall
  · assumption
  · repeat' split at hsmall
    all_goals omega

theorem digits_of_digits? {cs : List Char} {n : Nat} (h : digits? 10 cs = some n) :
    cs ≠ [] ∧ ∀ c ∈ cs, Digit c := by
  constructor
  · rintro rfl
    cases h
  · intro c hc
    cases hdigit : digit? 10 c with
    | none =>
      rw [digits?_of_not_digit hc hdigit] at h
      cases h
    | some d => exact digit_of_digit? hdigit

theorem digitsValue_toDigits (n : Nat) : digitsValue (Nat.toDigits 10 n) = n :=
  Nat.ofDigitChars_ten_toDigits

theorem digitsValue_zeros (cs : List Char) (count : Nat) :
    digitsValue (cs ++ List.replicate count '0') = digitsValue cs * tenTo count := by
  rw [digitsValue, Nat.ofDigitChars_append, Nat.ofDigitChars_replicate_zero, Nat.mul_comm]
  rfl

theorem digitsValue_padded (count : Nat) (cs : List Char) :
    digitsValue (List.replicate count '0' ++ cs) = digitsValue cs := by
  rw [digitsValue, Nat.ofDigitChars_append, Nat.ofDigitChars_replicate_zero, Nat.mul_zero]
  rfl

theorem toDigits_digits (n : Nat) : ∀ c ∈ Nat.toDigits 10 n, Digit c :=
  fun _ hc => digit_of_mem_toDigits hc

theorem digits?_toDigits (n : Nat) : digits? 10 (Nat.toDigits 10 n) = some n := by
  rw [digits?_of_digits Nat.toDigits_ne_nil (toDigits_digits n), digitsValue_toDigits]

theorem signed_of_digit {c : Char} (h : Digit c) (cs : List Char) :
    signed (c :: cs) = (false, c :: cs) := by
  have hplus : c ≠ '+' := Json.ne_of_digit h (by decide)
  have hminus : c ≠ '-' := Json.ne_of_digit h (by decide)
  simp [signed, hplus, hminus]

theorem signed_toDigits (n : Nat) :
    signed (Nat.toDigits 10 n) = (false, Nat.toDigits 10 n) := by
  obtain ⟨c, cs, hcons⟩ := List.exists_cons_of_ne_nil (Nat.toDigits_ne_nil (n := n) (b := 10))
  rw [hcons]
  exact signed_of_digit (toDigits_digits n c (by rw [hcons]; exact List.mem_cons_self)) cs

/-! ## Texts of decimals -/

/-- A text that writes a decimal with a point, with an exponent or with both. -/
inductive Writes : List Char → Scientific → Prop where
  | point {whole fraction tail : List Char} {power : Int} :
      Whole whole → fraction ≠ [] → (∀ c ∈ fraction, Digit c) → power? tail = some power →
      Writes (whole ++ '.' :: (fraction ++ tail))
        ⟨digitsValue (whole ++ fraction), power - Int.ofNat fraction.length⟩
  | bare {whole tail : List Char} {power : Int} :
      Whole whole → power? ('e' :: tail) = some power →
      Writes (whole ++ 'e' :: tail) ⟨digitsValue whole, power⟩

theorem whole_digits {cs : List Char} (h : Whole cs) : cs ≠ [] ∧ ∀ c ∈ cs, Digit c := by
  cases h with
  | zero =>
    refine ⟨by simp, ?_⟩
    simp [Digit]
  | digits hc _ hcs => exact ⟨by simp, List.forall_mem_cons.mpr ⟨hc, hcs⟩⟩

theorem head_of_power? {tail : List Char} {power : Int} (h : power? tail = some power) :
    ∀ c ∈ tail.head?, ¬ Digit c := by
  intro c hc
  cases tail with
  | nil => cases hc
  | cons d rest =>
    obtain rfl : d = c := by simpa using hc
    rw [power?] at h
    split at h
    · rename_i hletter
      rcases (by simpa using hletter : d = 'e' ∨ d = 'E') with rfl | rfl <;> decide
    · cases h

/-- Digits end where something else comes. -/
theorem span_digits {cs : List Char} (hcs : ∀ c ∈ cs, Digit c) {rest : List Char}
    (hrest : ∀ c ∈ rest.head?, ¬ Digit c) :
    (cs ++ rest).takeWhile Char.isDigit = cs ∧ (cs ++ rest).dropWhile Char.isDigit = rest := by
  have hall : ∀ c ∈ cs, c.isDigit = true := fun c hc => (isDigit_iff c).mpr (hcs c hc)
  rw [List.takeWhile_append_of_pos hall, List.dropWhile_append_of_pos hall]
  cases rest with
  | nil => simp
  | cons c rest =>
    have hc : ¬ c.isDigit = true := fun h => hrest c rfl ((isDigit_iff c).mp h)
    rw [List.takeWhile_cons_of_neg hc, List.dropWhile_cons_of_neg hc, List.append_nil]
    exact ⟨rfl, rfl⟩

theorem Writes.unsigned? {cs : List Char} {d : Scientific} (h : Writes cs d) :
    unsigned? cs = some d := by
  cases h with
  | @point whole fraction tail power hwhole hne hfraction hpower =>
    obtain ⟨hwholeNe, hdigits⟩ := whole_digits hwhole
    have hspan := @span_digits _ hdigits ('.' :: (fraction ++ tail)) (by simp [Digit])
    have hfractionSpan := span_digits hfraction (head_of_power? hpower)
    have hall : ∀ c ∈ whole ++ fraction, Digit c := List.forall_mem_append.mpr ⟨hdigits, hfraction⟩
    simp only [Decimal.unsigned?, hspan.1, hspan.2, hfractionSpan.1, hfractionSpan.2,
      digits?_of_digits (List.append_ne_nil_of_left_ne_nil hwholeNe fraction) hall, hpower]
  | @bare whole tail power hwhole hpower =>
    obtain ⟨hwholeNe, hdigits⟩ := whole_digits hwhole
    have hspan := @span_digits _ hdigits ('e' :: tail) (by simp [Digit])
    simp [Decimal.unsigned?, hspan, digits?_of_digits hwholeNe hdigits, hpower]

def Numeric (c : Char) : Prop :=
  Digit c ∨ c ∈ ['-', '+', '.', 'e', 'E']

theorem numeric_of_signed {cs : List Char} (h : ∀ c ∈ (signed cs).2, Digit c) :
    ∀ c ∈ cs, Numeric c := by
  unfold signed at h
  split at h
  · exact List.forall_mem_cons.mpr ⟨.inr (by decide), fun c hc => .inl (h c hc)⟩
  · exact List.forall_mem_cons.mpr ⟨.inr (by decide), fun c hc => .inl (h c hc)⟩
  · exact fun c hc => .inl (h c hc)

theorem numeric_of_integer? {cs : List Char} {n : Int} (h : integer? cs = some n) :
    ∀ c ∈ cs, Numeric c := by
  simp only [integer?, Option.map_eq_some_iff] at h
  obtain ⟨m, hm, -⟩ := h
  exact numeric_of_signed (digits_of_digits? hm).2

theorem numeric_of_power? {tail : List Char} {power : Int} (h : power? tail = some power) :
    ∀ c ∈ tail, Numeric c := by
  cases tail with
  | nil => simp
  | cons c rest =>
    rw [power?] at h
    split at h
    · rename_i hletter
      refine List.forall_mem_cons.mpr ⟨.inr ?_, numeric_of_integer? h⟩
      rcases (by simpa using hletter : c = 'e' ∨ c = 'E') with rfl | rfl <;> decide
    · cases h

theorem Writes.numeric {cs : List Char} {d : Scientific} (h : Writes cs d) :
    ∀ c ∈ cs, Numeric c := by
  cases h with
  | point hwhole _ hfraction hpower =>
    refine List.forall_mem_append.mpr ⟨fun c hc => .inl ((whole_digits hwhole).2 c hc), ?_⟩
    refine List.forall_mem_cons.mpr ⟨.inr (by decide), List.forall_mem_append.mpr ⟨?_, ?_⟩⟩
    · exact fun c hc => .inl (hfraction c hc)
    · exact numeric_of_power? hpower
  | bare hwhole hpower =>
    refine List.forall_mem_append.mpr ⟨fun c hc => .inl ((whole_digits hwhole).2 c hc), ?_⟩
    exact numeric_of_power? hpower

theorem isSome_double?_of_integer? {cs : List Char} {n : Int} (h : integer? cs = some n) :
    (double? cs).isSome := by
  simp only [integer?, Option.map_eq_some_iff] at h
  obtain ⟨m, hdigits, -⟩ := h
  obtain ⟨hne, hall⟩ := digits_of_digits? hdigits
  have hspan := @span_digits _ hall [] (by simp)
  rw [List.append_nil] at hspan
  have hunsigned : unsigned? (signed cs).2 = some ⟨m, 0⟩ := by
    simp [unsigned?, hspan, hdigits, power?]
  simp only [double?, hunsigned, Option.map_some]
  split
  · rfl
  · split <;> rfl

/-- A text that writes a decimal starts with the digits before its point or exponent. -/
theorem Writes.shape {cs : List Char} {d : Scientific} (h : Writes cs d) :
    ∃ whole mark rest, cs = whole ++ mark :: rest ∧ Whole whole ∧ (mark = '.' ∨ mark = 'e') := by
  cases h with
  | point hwhole => exact ⟨_, _, _, rfl, hwhole, Or.inl rfl⟩
  | bare hwhole => exact ⟨_, _, _, rfl, hwhole, Or.inr rfl⟩

theorem Writes.head {cs : List Char} {d : Scientific} (h : Writes cs d) :
    ∃ c rest, cs = c :: rest ∧ Digit c := by
  obtain ⟨whole, mark, rest, rfl, hwhole, -⟩ := h.shape
  obtain ⟨hne, hdigits⟩ := whole_digits hwhole
  obtain ⟨c, tail, rfl⟩ := List.exists_cons_of_ne_nil hne
  exact ⟨c, _, rfl, hdigits c List.mem_cons_self⟩

/-! ## What the formats write -/

theorem integer?_toString_natAbs {power : Int} (plusSign : Bool) :
    integer? ((if power < 0 then ['-'] else if plusSign then ['+'] else []) ++
      Nat.toDigits 10 power.natAbs) = some power := by
  split
  · simp only [List.singleton_append, integer?, signed, digits?_toDigits, Option.map_some, if_true,
      Option.some.injEq, Int.ofNat_eq_natCast]
    omega
  · split
    · simp only [List.singleton_append, integer?, signed, digits?_toDigits, Option.map_some,
        Bool.false_eq_true, if_false, Option.some.injEq, Int.ofNat_eq_natCast]
      omega
    · simp only [List.nil_append, integer?, signed_toDigits, digits?_toDigits, Option.map_some,
        Bool.false_eq_true, if_false, Option.some.injEq, Int.ofNat_eq_natCast]
      omega

section Formats
variable {n : Nat} (exponent : Int)

theorem writes_withExponent (hn : 0 < n) (plusSign : Bool) {power : Int}
    (hpower : power = Int.ofNat (Nat.toDigits 10 n).length - 1 + exponent) :
    Writes (withExponent plusSign power (Nat.toDigits 10 n)) ⟨n, exponent⟩ := by
  obtain ⟨c, cs, hcons, hc⟩ := head_toDigits hn
  have hdigits := toDigits_digits n
  rw [hcons] at hdigits hpower
  obtain ⟨hhead, htail⟩ := List.forall_mem_cons.mp hdigits
  have hwhole : Whole [c] := .digits hhead hc (by simp)
  have hexponent : power? ('e' :: ((if power < 0 then ['-'] else if plusSign then ['+'] else []) ++
      Nat.toDigits 10 power.natAbs)) = some power := by
    rw [power?, if_pos (by decide)]
    exact integer?_toString_natAbs plusSign
  have hvalue : digitsValue (c :: cs) = n := by rw [← hcons, digitsValue_toDigits]
  unfold withExponent
  rw [hcons, Nat.toString_eq_repr, Nat.toList_repr]
  cases cs with
  | nil =>
    have hbare := Writes.bare hwhole hexponent
    have hsame : power = exponent := by
      rw [hpower]
      simp
    rw [hvalue] at hbare
    rw [← hsame]
    simpa using hbare
  | cons d rest =>
    have hpoint := Writes.point hwhole (List.cons_ne_nil d rest) htail hexponent
    have hsame : power - Int.ofNat (d :: rest).length = exponent := by
      rw [hpower]
      simp only [List.length_cons, Int.ofNat_eq_natCast]
      omega
    rw [show digitsValue ([c] ++ d :: rest) = n from hvalue, hsame] at hpoint
    simpa using hpoint

theorem writes_pointBefore {power : Int} (hneg : power < 0)
    (hpower : power = Int.ofNat (Nat.toDigits 10 n).length - 1 + exponent) :
    Writes (pointBefore power (Nat.toDigits 10 n)) ⟨n, exponent⟩ := by
  have hfraction : ∀ c ∈ List.replicate (power.natAbs - 1) '0' ++ Nat.toDigits 10 n, Digit c := by
    refine List.forall_mem_append.mpr ⟨?_, toDigits_digits n⟩
    intro c hc
    rw [List.eq_of_mem_replicate hc]
    decide
  have hpoint := @Writes.point _ _ [] 0 .zero
    (List.append_ne_nil_of_right_ne_nil _ (Nat.toDigits_ne_nil (n := n) (b := 10))) hfraction rfl
  have hvalue : digitsValue (['0'] ++ (List.replicate (power.natAbs - 1) '0' ++
      Nat.toDigits 10 n)) = n := by
    rw [← List.append_assoc]
    exact (digitsValue_padded (power.natAbs - 1 + 1) _).trans (digitsValue_toDigits n)
  have hexponent : 0 - Int.ofNat (List.replicate (power.natAbs - 1) '0' ++
      Nat.toDigits 10 n).length = exponent := by
    rw [List.length_append, List.length_replicate]
    simp only [Int.ofNat_eq_natCast] at hpower ⊢
    omega
  rw [hvalue, hexponent] at hpoint
  simpa [pointBefore] using hpoint

theorem writes_pointAfter (hn : 0 < n) {power : Int} (hpos : ¬ power < 0)
    (hpower : power = Int.ofNat (Nat.toDigits 10 n).length - 1 + exponent) :
    ∃ d, Writes (pointAfter (power.natAbs + 1) (Nat.toDigits 10 n)) d ∧
      d.nearest? = Scientific.nearest? ⟨n, exponent⟩ := by
  obtain ⟨c, cs, hcons, hc⟩ := head_toDigits hn
  have hdigits := toDigits_digits n
  rw [pointAfter]
  split
  · rename_i hshort
    generalize hcount : power.natAbs + 1 - (Nat.toDigits 10 n).length = count
    have hwhole : Whole (Nat.toDigits 10 n ++ List.replicate count '0') := by
      rw [hcons] at hdigits ⊢
      obtain ⟨hhead, htail⟩ := List.forall_mem_cons.mp hdigits
      refine .digits hhead hc (List.forall_mem_append.mpr ⟨htail, ?_⟩)
      intro d hd
      rw [List.eq_of_mem_replicate hd]
      decide
    have hpoint := @Writes.point _ ['0'] [] 0 hwhole (by simp) (by simp [Digit]) rfl
    have hvalue : digitsValue (Nat.toDigits 10 n ++ List.replicate count '0' ++ ['0']) =
        n * tenTo (count + 1) := by
      rw [List.append_assoc, ← List.replicate_succ', digitsValue_zeros, digitsValue_toDigits]
    have hexponent : (0 : Int) - Int.ofNat ['0'].length = exponent - ((count + 1 : Nat) : Int) := by
      simp only [Int.ofNat_eq_natCast, List.length_singleton] at hpower ⊢
      omega
    rw [hvalue, hexponent] at hpoint
    refine ⟨_, by simpa using hpoint, ?_⟩
    exact Scientific.nearest?_pads (Nat.pos_iff_ne_zero.mp hn) exponent (count + 1)
  · rename_i hlong
    have hwhole : Whole ((Nat.toDigits 10 n).take (power.natAbs + 1)) := by
      rw [hcons] at hdigits ⊢
      obtain ⟨hhead, htail⟩ := List.forall_mem_cons.mp hdigits
      rw [List.take_succ_cons]
      exact .digits hhead hc fun d hd => htail d (List.mem_of_mem_take hd)
    have hne : (Nat.toDigits 10 n).drop (power.natAbs + 1) ≠ [] := by
      rw [Ne, List.drop_eq_nil_iff]
      exact hlong
    have hpoint := @Writes.point _ _ [] 0 hwhole hne
      (fun d hd => hdigits d (List.mem_of_mem_drop hd)) rfl
    have hexponent : 0 - Int.ofNat ((Nat.toDigits 10 n).drop (power.natAbs + 1)).length =
        exponent := by
      rw [List.length_drop]
      simp only [Int.ofNat_eq_natCast] at hpower ⊢
      omega
    rw [List.take_append_drop, digitsValue_toDigits, hexponent] at hpoint
    exact ⟨_, by simpa using hpoint, rfl⟩

end Formats

/-- What is written of a magnitude is a decimal that rounds to it. -/
theorem exists_writes (f : Format) (m : Magnitude) :
    ∃ d, Writes (f.magnitude m) d ∧ d.nearest? = some m := by
  cases hzero : m.isZero with
  | true =>
    refine ⟨⟨0, -1⟩, ?_, ?_⟩
    · have hpoint := @Writes.point _ ['0'] [] 0 .zero (by simp) (by simp [Digit]) rfl
      rw [Format.magnitude, if_pos hzero]
      exact hpoint
    · rw [m.isZero_iff.mp hzero]
      rfl
  | false =>
    have hshortest := Magnitude.nearest?_shortest hzero
    have hpos := Nat.pos_of_ne_zero (Scientific.digits_ne_zero hshortest hzero)
    rw [Format.magnitude, if_neg (by simp [hzero])]
    simp only [Nat.toString_eq_repr, Nat.toList_repr]
    split
    · exact ⟨_, writes_withExponent _ hpos _ rfl, hshortest⟩
    · split
      · rename_i hneg
        exact ⟨_, writes_pointBefore _ hneg rfl, hshortest⟩
      · rename_i hpower
        obtain ⟨d, hwrites, hnearest⟩ := writes_pointAfter _ hpos hpower rfl
        exact ⟨d, hwrites, hnearest.trans hshortest⟩

theorem toList_finite (f : Format) (x : Finite) :
    (f.finite x).toList = (if x.negative then ['-'] else []) ++ f.magnitude x.magnitude := by
  rw [Format.finite, String.toList_ofList]

theorem signed_finite (f : Format) (x : Finite) :
    signed (f.finite x).toList = (x.negative, f.magnitude x.magnitude) := by
  rw [toList_finite]
  obtain ⟨negative, magnitude⟩ := x
  cases negative with
  | true => rfl
  | false =>
    obtain ⟨d, hwrites, -⟩ := exists_writes f magnitude
    obtain ⟨c, rest, hcons, hc⟩ := hwrites.head
    show signed (f.magnitude magnitude) = _
    rw [hcons]
    exact signed_of_digit hc rest

def NoDigitFirst (cs : List Char) : Prop :=
  ∀ d ∈ cs.head?, ¬ Digit d

instance : ∀ cs : List Char, Decidable (NoDigitFirst cs)
  | [] => .isTrue fun _ hd => by cases hd
  | c :: _ => decidable_of_iff (¬ Digit c)
      ⟨fun h _ hd => Option.some.inj hd ▸ h, fun h => h c rfl⟩

/-- A word starts with a letter, a decimal with a digit. -/
theorem ne_word_of_digit {c : Char} (h : Digit c) (rest : List Char) (word : String)
    (hword : NoDigitFirst word.toList) :
    String.ofList ((c :: rest).map Char.toLower) ≠ word := by
  rintro rfl
  have hsame : c.toLower = c := by
    have hnot : ¬ (c.val ≥ 'A'.val ∧ c.val ≤ 'Z'.val) := by
      rintro ⟨hge, -⟩
      have hlarge : 65 ≤ c.toNat := UInt32.le_iff_toNat_le.mp hge
      have hsmall : c.toNat ≤ 57 := h.2
      omega
    exact dif_neg hnot
  apply hword c _ h
  rw [String.toList_ofList, List.map_cons, hsame]
  rfl

/-- A finite double is read back from its notation in any format. -/
theorem double?_finite (f : Format) (x : Finite) :
    double? (f.finite x).toList = some (.finite x) := by
  obtain ⟨d, hwrites, hnearest⟩ := exists_writes f x.magnitude
  obtain ⟨c, rest, hcons, hc⟩ := hwrites.head
  have hinf := ne_word_of_digit hc rest "inf" (by decide)
  have hinfinity := ne_word_of_digit hc rest "infinity" (by decide)
  have hnan := ne_word_of_digit hc rest "nan" (by decide)
  rw [← hcons] at hinf hinfinity hnan
  simp only [double?, signed_finite, decide_eq_false hinf, decide_eq_false hinfinity,
    if_neg hnan, hwrites.unsigned?, Option.map_some, Scientific.toDouble, hnearest, Bool.or_self,
    Bool.false_eq_true, if_false]

end TemplateAudit.Decimal
