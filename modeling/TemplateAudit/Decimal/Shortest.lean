import TemplateAudit.Decimal.Binary64

/-!
# Shortest decimals

`Magnitude.shortest` is the decimal with the fewest digits that rounds to a given magnitude, the
nearest one of those, and the even one of two that are equally near.
-/

namespace TemplateAudit.Decimal

set_option autoImplicit false

namespace Magnitude

/-- Least `places` with `1 ≤ m · 10 ^ places`, for a magnitude below one. -/
def placesBelowOne (m : Magnitude) : Nat → Nat → Nat
  | 0, places => places
  | fuel + 1, places =>
    if twoTo 1074 ≤ m.units * tenTo places then places else placesBelowOne m fuel (places + 1)

/-- The power of ten of the first significant digit of a magnitude that is not zero. -/
def leadingPower (m : Magnitude) : Int :=
  if twoTo 1074 ≤ m.units then Int.ofNat ((toString (m.units / twoTo 1074)).length - 1)
  else -Int.ofNat (placesBelowOne m 400 1)

/-- The quotient `m / 10 ^ power` as numerator and denominator. -/
def scaled (m : Magnitude) (power : Int) : Nat × Nat :=
  if power < 0 then (m.units * tenTo power.natAbs, twoTo 1074)
  else (m.units, twoTo 1074 * tenTo power.natAbs)

/-- The decimal on the grid of multiples of `10 ^ power` next to `m` that rounds to `m`, if any. -/
def onGrid? (m : Magnitude) (power : Int) : Option Scientific :=
  let (numerator, denominator) := m.scaled power
  let below : Scientific := ⟨numerator / denominator, power⟩
  let above : Scientific := ⟨numerator / denominator + 1, power⟩
  let remainder := numerator % denominator
  match decide (below.nearest? = some m), decide (above.nearest? = some m) with
  | true, true =>
    if 2 * remainder < denominator || (2 * remainder == denominator && below.digits % 2 == 0)
    then some below else some above
  | true, false => some below
  | false, true => some above
  | false, false => none

def expansion (m : Magnitude) : Scientific :=
  ⟨m.units * fiveTo 1074, -1074⟩

end Magnitude

/-- The same number without trailing zeros, of which at most `fuel` are taken away. -/
def Scientific.strip : Nat → Scientific → Scientific
  | 0, d => d
  | fuel + 1, d =>
    if d.digits ≠ 0 ∧ d.digits % 10 = 0 then strip fuel ⟨d.digits / 10, d.exponent + 1⟩ else d

/-- The fewest digits that read back as the same magnitude. -/
def Magnitude.shortest (m : Magnitude) : Scientific :=
  if m.isZero then ⟨0, 0⟩
  else
    let leading := m.leadingPower
    let grids := (List.range 17).map fun n => leading - Int.ofNat n
    let found := (grids.findSome? m.onGrid?).getD m.expansion
    found.strip (toString found.digits).length

end TemplateAudit.Decimal
