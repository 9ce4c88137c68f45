/-!
# Double precision

Finite doubles are exact: a sign and a magnitude `significand · 2 ^ scale / 2 ^ 1074` in canonical
form, so equality of magnitudes is equality of the numbers they denote. All arithmetic goes through
one function, `nearest?`, which rounds a quotient of natural numbers to the nearest magnitude and
sends a tie to the even significand.
-/

namespace TemplateAudit.Decimal

set_option autoImplicit false

def twoTo (n : Nat) : Nat :=
  Nat.pow 2 n

def fiveTo (n : Nat) : Nat :=
  Nat.pow 5 n

def tenTo (n : Nat) : Nat :=
  Nat.pow 10 n

/-- The canonical form of a magnitude: of all pairs that denote one number, the one with the
longest significand that fits 53 bits. -/
def IsCanonical (significand scale : Nat) : Prop :=
  significand < twoTo 53 ∧ scale ≤ 2045 ∧ (scale = 0 ∨ twoTo 52 ≤ significand)

instance (significand scale : Nat) : Decidable (IsCanonical significand scale) :=
  inferInstanceAs (Decidable (_ ∧ _ ∧ (_ ∨ _)))

/-- The number `significand · 2 ^ scale / 2 ^ 1074`. -/
structure Magnitude where
  significand : Nat
  scale : Nat
  canonical : IsCanonical significand scale
deriving DecidableEq

/-- The quotient rounded to the nearest integer, a tie to the even one. -/
def roundQuotient (numerator denominator : Nat) : Nat :=
  let quotient := numerator / denominator
  let remainder := numerator % denominator
  if denominator < 2 * remainder || (denominator == 2 * remainder && quotient % 2 == 1) then
    quotient + 1
  else quotient

namespace Magnitude

def zero : Magnitude := ⟨0, 0, by decide⟩

def largest : Magnitude := ⟨twoTo 53 - 1, 2045, by decide⟩

/-- The magnitude as a multiple of the least positive one, `1 / 2 ^ 1074`. -/
def units (m : Magnitude) : Nat :=
  m.significand * twoTo m.scale

def isZero (m : Magnitude) : Bool :=
  m.significand == 0

def ofParts? (significand scale : Nat) : Option Magnitude :=
  if h : IsCanonical significand scale then some ⟨significand, scale, h⟩ else none

/-- The magnitude nearest to a quotient; `none` when it lies beyond the largest one. -/
def nearest? (numerator denominator : Nat) : Option Magnitude :=
  let wanted := numerator * twoTo 1074
  let scale := (wanted / denominator).log2 - 52
  let significand := roundQuotient wanted (denominator * twoTo scale)
  if significand = twoTo 53 then ofParts? (twoTo 52) (scale + 1) else ofParts? significand scale

def ofNat (n : Nat) : Magnitude :=
  (nearest? n 1).getD largest

def mul? (a b : Magnitude) : Option Magnitude :=
  nearest? (a.units * b.units) (twoTo 1074 * twoTo 1074)

def div? (a b : Magnitude) : Option Magnitude :=
  nearest? a.units b.units

end Magnitude

structure Finite where
  negative : Bool
  magnitude : Magnitude
deriving DecidableEq

namespace Finite

def isZero (x : Finite) : Bool :=
  x.magnitude.isZero

/-- Equality of numbers: the two zeros are equal. -/
def same (x y : Finite) : Bool :=
  (x.isZero && y.isZero) || x == y

def ofInt (n : Int) : Finite :=
  ⟨decide (n < 0), Magnitude.ofNat n.natAbs⟩

/-- The number as a signed multiple of `1 / 2 ^ 1074`. -/
def units (x : Finite) : Int :=
  if x.negative then -Int.ofNat x.magnitude.units else Int.ofNat x.magnitude.units

end Finite

inductive Double where
  | finite (value : Finite)
  | infinite (negative : Bool)
  | notANumber
deriving DecidableEq

namespace Double

/-- Whether a number is at least a bound; nothing compares with what is not a number. -/
def atLeast (x : Finite) : Double → Bool
  | .finite bound => decide (bound.units ≤ x.units)
  | .infinite negative => negative
  | .notANumber => false

end Double

/-- The decimal number `digits · 10 ^ exponent`. -/
structure Scientific where
  digits : Nat
  exponent : Int
deriving DecidableEq

namespace Scientific

/-- The magnitude nearest to a decimal number; `none` when it lies beyond the largest one. Decimals
far outside the range of doubles are settled by their number of digits alone. -/
def nearest? (d : Scientific) : Option Magnitude :=
  let places := Int.ofNat (toString d.digits).length + d.exponent
  if d.digits = 0 || places < -400 then some .zero
  else if 400 < places then none
  else if d.exponent < 0 then Magnitude.nearest? d.digits (tenTo d.exponent.natAbs)
  else Magnitude.nearest? (d.digits * tenTo d.exponent.natAbs) 1

def toDouble (negative : Bool) (d : Scientific) : Double :=
  match d.nearest? with
  | some m => .finite ⟨negative, m⟩
  | none => .infinite negative

end Scientific

end TemplateAudit.Decimal
