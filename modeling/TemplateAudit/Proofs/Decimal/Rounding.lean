import Mathlib.Algebra.Order.Ring.Nat
import TemplateAudit.Decimal.Shortest

/-!
# Rounding and shortest decimals

The magnitude nearest to a quotient depends on the quotient only, and a magnitude is nearest to
itself. Decimals that denote one number therefore round alike, and the shortest decimal of a
magnitude rounds to it: those on a grid are chosen for that, and the exact expansion does so anyway.
-/

namespace TemplateAudit.Decimal

set_option autoImplicit false

/-! ## Powers -/

theorem twoTo_pos (n : Nat) : 0 < twoTo n :=
  Nat.pow_pos (by decide)

theorem tenTo_pos (n : Nat) : 0 < tenTo n :=
  Nat.pow_pos (by decide)

theorem twoTo_add (a b : Nat) : twoTo (a + b) = twoTo a * twoTo b :=
  Nat.pow_add 2 a b

theorem twoTo_le {a b : Nat} (h : a ≤ b) : twoTo a ≤ twoTo b :=
  Nat.pow_le_pow_right (by decide) h

theorem fiveTo_pos (n : Nat) : 0 < fiveTo n :=
  Nat.pow_pos (by decide)

theorem tenTo_succ (n : Nat) : tenTo (n + 1) = tenTo n * 10 := rfl

theorem tenTo_eq (n : Nat) : tenTo n = fiveTo n * twoTo n :=
  Nat.mul_pow 5 2 n

/-! ## Quotients -/

theorem roundQuotient_exact {denominator : Nat} (h : 0 < denominator) (quotient : Nat) :
    roundQuotient (quotient * denominator) denominator = quotient := by
  have hremainder : quotient * denominator % denominator = 0 := Nat.mul_mod_left _ _
  have hquotient : quotient * denominator / denominator = quotient := Nat.mul_div_left _ h
  rw [roundQuotient, hremainder, hquotient]
  simp [Nat.pos_iff_ne_zero.mp h]

theorem roundQuotient_mul {k : Nat} (hk : 0 < k) (numerator denominator : Nat) :
    roundQuotient (k * numerator) (k * denominator) = roundQuotient numerator denominator := by
  have hlt : k * denominator < 2 * (k * (numerator % denominator)) ↔
      denominator < 2 * (numerator % denominator) := by
    rw [Nat.mul_left_comm]
    exact Nat.mul_lt_mul_left hk
  have heq : k * denominator = 2 * (k * (numerator % denominator)) ↔
      denominator = 2 * (numerator % denominator) := by
    rw [Nat.mul_left_comm]
    exact Nat.mul_right_inj (Nat.pos_iff_ne_zero.mp hk)
  simp only [roundQuotient, Nat.mul_div_mul_left _ _ hk, Nat.mul_mod_mul_left, hlt,
    Bool.or_eq_true, Bool.and_eq_true, beq_iff_eq, heq, decide_eq_true_eq]

namespace Magnitude

theorem nearest?_mul {k : Nat} (hk : 0 < k) (numerator denominator : Nat) :
    nearest? (k * numerator) (k * denominator) = nearest? numerator denominator := by
  simp only [nearest?, Nat.mul_assoc k, Nat.mul_div_mul_left _ _ hk, roundQuotient_mul hk]

theorem units_eq_zero_iff (m : Magnitude) : m.units = 0 ↔ m.significand = 0 := by
  rw [units, Nat.mul_eq_zero]
  exact or_iff_left (Nat.pos_iff_ne_zero.mp (twoTo_pos m.scale))

theorem log2_units (m : Magnitude) : m.units.log2 - 52 = m.scale := by
  obtain ⟨hsmall, -, hscale⟩ := m.canonical
  by_cases hzero : m.significand = 0
  · have hunits : m.units = 0 := m.units_eq_zero_iff.mpr hzero
    rcases hscale with hscale | hlarge
    · rw [hunits, hscale]
      rfl
    · rw [hzero] at hlarge
      exact absurd hlarge (Nat.not_le.mpr (twoTo_pos 52))
  · have hunits : m.units ≠ 0 := fun h => hzero (m.units_eq_zero_iff.mp h)
    have hupper : m.units < twoTo (53 + m.scale) := by
      rw [twoTo_add]
      exact Nat.mul_lt_mul_of_pos_right hsmall (twoTo_pos m.scale)
    have hle : m.units.log2 < 53 + m.scale := (Nat.log2_lt hunits).mpr hupper
    rcases hscale with hscale | hlarge
    · omega
    · have hlower : twoTo (52 + m.scale) ≤ m.units := by
        rw [twoTo_add]
        exact Nat.mul_le_mul_right _ hlarge
      have hge : 52 + m.scale ≤ m.units.log2 := (Nat.le_log2 hunits).mpr hlower
      omega

theorem nearest?_units (m : Magnitude) : nearest? m.units (twoTo 1074) = some m := by
  have hscale : (m.units * twoTo 1074 / twoTo 1074).log2 - 52 = m.scale := by
    rw [Nat.mul_div_left _ (twoTo_pos 1074), log2_units]
  have hsignificand :
      roundQuotient (m.units * twoTo 1074) (twoTo 1074 * twoTo m.scale) = m.significand := by
    rw [units, Nat.mul_assoc, Nat.mul_comm (twoTo m.scale)]
    exact roundQuotient_exact (Nat.mul_pos (twoTo_pos 1074) (twoTo_pos m.scale)) m.significand
  have hne : m.significand ≠ twoTo 53 := Nat.ne_of_lt m.canonical.1
  simp only [nearest?, hscale, hsignificand, if_neg hne]
  exact dif_pos m.canonical

theorem isZero_iff (m : Magnitude) : m.isZero = true ↔ m = zero := by
  constructor
  · intro h
    obtain ⟨significand, scale, hcanonical⟩ := m
    obtain rfl : significand = 0 := by simpa [isZero] using h
    obtain ⟨-, -, rfl | hlarge⟩ := hcanonical
    · rfl
    · exact absurd hlarge (Nat.not_le.mpr (twoTo_pos 52))
  · rintro rfl
    rfl

end Magnitude

/-! ## Decimals that denote one number -/

theorem length_toString_pad {n : Nat} (h : n ≠ 0) :
    (toString (n * 10)).length = (toString n).length + 1 := by
  have hdigits : Nat.toDigits 10 (n * 10) = Nat.toDigits 10 n ++ [(0 : Nat).digitChar] := by
    rw [Nat.toDigits_of_base_le (by decide) (by omega), Nat.mul_div_left _ (by decide),
      Nat.mul_mod_left]
  rw [Nat.toString_eq_ofList_toDigits, Nat.toString_eq_ofList_toDigits, String.length_ofList,
    String.length_ofList, hdigits, List.length_append, List.length_singleton]

theorem length_toString_le_iff {n k : Nat} (h : 0 < k) :
    (toString n).length ≤ k ↔ n < tenTo k := by
  rw [Nat.toString_eq_repr]
  exact Nat.length_repr_le_iff h

namespace Scientific

theorem nearest?_pad {digits : Nat} (h : digits ≠ 0) (exponent : Int) :
    nearest? ⟨digits * 10, exponent - 1⟩ = nearest? ⟨digits, exponent⟩ := by
  have hplaces : Int.ofNat (toString (digits * 10)).length + (exponent - 1) =
      Int.ofNat (toString digits).length + exponent := by
    rw [length_toString_pad h]
    simp only [Int.ofNat_eq_natCast, Int.natCast_add, Int.cast_ofNat_Int]
    omega
  have hzero : digits * 10 = 0 ↔ digits = 0 := by omega
  -- The power of ten moves from the numerator to the denominator when the exponent turns negative.
  have hvalue : (if exponent - 1 < 0
        then Magnitude.nearest? (digits * 10) (tenTo (exponent - 1).natAbs)
        else Magnitude.nearest? (digits * 10 * tenTo (exponent - 1).natAbs) 1) =
      if exponent < 0 then Magnitude.nearest? digits (tenTo exponent.natAbs)
      else Magnitude.nearest? (digits * tenTo exponent.natAbs) 1 := by
    rcases Int.lt_trichotomy exponent 0 with hneg | rfl | hpos
    · have habs : (exponent - 1).natAbs = exponent.natAbs + 1 := by omega
      rw [if_pos (by omega), if_pos hneg, habs, tenTo_succ, Nat.mul_comm digits,
        Nat.mul_comm (tenTo _), Magnitude.nearest?_mul (by decide)]
    · have hten : tenTo (0 - 1 : Int).natAbs = 10 * 1 := rfl
      have hone : tenTo (0 : Int).natAbs = 1 := rfl
      rw [if_pos (by decide), if_neg (by decide), hten, hone, Nat.mul_comm digits,
        Nat.mul_one digits, Magnitude.nearest?_mul (by decide)]
    · have habs : exponent.natAbs = (exponent - 1).natAbs + 1 := by omega
      rw [if_neg (by omega), if_neg (by omega), habs, tenTo_succ, Nat.mul_assoc,
        Nat.mul_comm 10]
  simp only [nearest?, hplaces, hzero, hvalue]

theorem nearest?_pads {digits : Nat} (h : digits ≠ 0) (exponent : Int) (count : Nat) :
    nearest? ⟨digits * tenTo count, exponent - count⟩ = nearest? ⟨digits, exponent⟩ := by
  induction count with
  | zero => simp [tenTo]
  | succ count ih =>
    have hne : digits * tenTo count ≠ 0 :=
      Nat.mul_ne_zero h (Nat.pos_iff_ne_zero.mp (tenTo_pos count))
    have hexponent : exponent - ((count + 1 : Nat) : Int) = exponent - count - 1 := by omega
    rw [tenTo_succ, ← Nat.mul_assoc, hexponent, nearest?_pad hne, ih]

theorem nearest?_strip (fuel : Nat) (d : Scientific) : (d.strip fuel).nearest? = d.nearest? := by
  induction fuel generalizing d with
  | zero => rfl
  | succ fuel ih =>
    rw [strip]
    split
    · rename_i hzeros
      have hdigits : d.digits / 10 * 10 = d.digits := by omega
      rw [ih, ← nearest?_pad (by omega), hdigits, Int.add_sub_cancel]
    · rfl

theorem digits_ne_zero {d : Scientific} {m : Magnitude} (h : d.nearest? = some m)
    (hm : m.isZero = false) : d.digits ≠ 0 := by
  intro hzero
  rw [nearest?, hzero] at h
  obtain rfl : Magnitude.zero = m := by simpa using h
  cases hm

end Scientific

/-! ## Shortest decimals -/

namespace Magnitude

theorem nearest?_of_onGrid? {m : Magnitude} {power : Int} {d : Scientific}
    (h : m.onGrid? power = some d) : d.nearest? = some m := by
  unfold onGrid? at h
  generalize m.scaled power = scaled at h
  dsimp only at h
  split at h
  · rename_i hbelow habove
    split at h
    · obtain rfl := Option.some.inj h
      exact of_decide_eq_true hbelow
    · obtain rfl := Option.some.inj h
      exact of_decide_eq_true habove
  · rename_i hbelow _
    obtain rfl := Option.some.inj h
    exact of_decide_eq_true hbelow
  · rename_i _ habove
    obtain rfl := Option.some.inj h
    exact of_decide_eq_true habove
  · cases h

theorem units_lt (m : Magnitude) : m.units < twoTo (53 + 2045) := by
  rw [twoTo_add]
  calc m.units < twoTo 53 * twoTo m.scale :=
        Nat.mul_lt_mul_of_pos_right m.canonical.1 (twoTo_pos m.scale)
    _ ≤ twoTo 53 * twoTo 2045 :=
        Nat.mul_le_mul_left _ (twoTo_le m.canonical.2.1)

theorem digits_expansion (m : Magnitude) :
    m.expansion.digits = fiveTo 1074 * m.units := by
  rw [expansion, Nat.mul_comm]

theorem length_expansion {m : Magnitude} (h : m.isZero = false) :
    673 < (toString m.expansion.digits).length ∧ (toString m.expansion.digits).length ≤ 1474 := by
  have hunits : 0 < m.units := by
    apply Nat.pos_of_ne_zero
    intro hzero
    simp [isZero, m.units_eq_zero_iff.mp hzero] at h
  rw [digits_expansion]
  constructor
  · apply Nat.lt_of_not_le
    rw [length_toString_le_iff (by decide), Nat.not_lt]
    calc tenTo 673 ≤ fiveTo 1074 := by decide +kernel
      _ ≤ fiveTo 1074 * m.units := Nat.le_mul_of_pos_right _ hunits
  · rw [length_toString_le_iff (by decide)]
    calc fiveTo 1074 * m.units < fiveTo 1074 * twoTo (53 + 2045) :=
          Nat.mul_lt_mul_of_pos_left m.units_lt (fiveTo_pos 1074)
      _ ≤ tenTo 1474 := by decide +kernel

theorem nearest?_expansion {m : Magnitude} (h : m.isZero = false) :
    m.expansion.nearest? = some m := by
  obtain ⟨hlower, hupper⟩ := length_expansion h
  have hne : m.expansion.digits ≠ 0 := by
    intro hzero
    rw [hzero] at hlower
    exact absurd hlower (by decide)
  have hexponent : m.expansion.exponent = -1074 := rfl
  have habs : Int.natAbs (-1074) = 1074 := rfl
  rw [Scientific.nearest?, hexponent]
  simp only [Bool.or_eq_true, decide_eq_true_eq, Int.ofNat_eq_natCast]
  rw [if_neg (by omega), if_neg (by omega), if_pos (by decide), habs, digits_expansion, tenTo_eq,
    nearest?_mul (fiveTo_pos 1074), nearest?_units]

theorem nearest?_shortest {m : Magnitude} (h : m.isZero = false) :
    m.shortest.nearest? = some m := by
  rw [shortest, if_neg (by simp [h])]
  rw [Scientific.nearest?_strip]
  generalize hfound : List.findSome? m.onGrid? _ = found
  cases found with
  | none => exact nearest?_expansion h
  | some d =>
    obtain ⟨power, -, hgrid⟩ := List.exists_of_findSome?_eq_some hfound
    exact nearest?_of_onGrid? hgrid

end Magnitude

end TemplateAudit.Decimal
