import TemplateAudit.Decimal.Shortest

/-!
# Decimal notation of doubles

Which powers of ten are written without an exponent, and whether an exponent carries a plus sign,
differs between the formats that numbers are written in; each is one `Format`.
-/

namespace TemplateAudit.Decimal

set_option autoImplicit false

structure Format where
  /-- Least power of ten of the first digit that is written without an exponent. -/
  plainFrom : Int
  /-- Greatest such power. -/
  plainTo : Int
  /-- Whether a positive exponent carries its sign. -/
  plusSign : Bool

/-- JSON texts: `0.00001`, `1e-6`, `1e+16`. -/
def Format.json : Format := ⟨-5, 15, true⟩

/-- YAML texts: `0.00001`, `1e-6`, `1e16`. -/
def Format.yaml : Format := ⟨-5, 15, false⟩

/-- Explanations of rules: `0.0001`, `1e-5`, `1e16`. -/
def Format.explained : Format := ⟨-4, 15, false⟩

/-- Digits with a point after the first `whole` of them, padded with zeros on the right. -/
def pointAfter (whole : Nat) (digits : List Char) : List Char :=
  if digits.length ≤ whole then
    digits ++ List.replicate (whole - digits.length) '0' ++ ['.', '0']
  else digits.take whole ++ '.' :: digits.drop whole

/-- Digits whose first one stands for the given negative power of ten. -/
def pointBefore (power : Int) (digits : List Char) : List Char :=
  ['0', '.'] ++ List.replicate (power.natAbs - 1) '0' ++ digits

/-- Digits with a point after the first, followed by the power of ten of that digit. -/
def withExponent (plusSign : Bool) (power : Int) (digits : List Char) : List Char :=
  let mantissa := match digits with
    | first :: second :: rest => first :: '.' :: second :: rest
    | short => short
  let sign := if power < 0 then ['-'] else if plusSign then ['+'] else []
  mantissa ++ 'e' :: sign ++ (toString power.natAbs).toList

def Format.magnitude (f : Format) (m : Magnitude) : List Char :=
  let d := m.shortest
  let digits := (toString d.digits).toList
  let power := Int.ofNat digits.length - 1 + d.exponent
  if m.isZero then ['0', '.', '0']
  else if power < f.plainFrom || f.plainTo < power then withExponent f.plusSign power digits
  else if power < 0 then pointBefore power digits
  else pointAfter (power.natAbs + 1) digits

def Format.finite (f : Format) (x : Finite) : String :=
  String.ofList ((if x.negative then ['-'] else []) ++ f.magnitude x.magnitude)

/-- A magnitude with one digit after the point, a tie going to the even digit. -/
def Magnitude.toOnePlace (m : Magnitude) : String :=
  let tenths := roundQuotient (m.units * 10) (twoTo 1074)
  toString (tenths / 10) ++ "." ++ toString (tenths % 10)

end TemplateAudit.Decimal
