import TemplateAudit.Decimal.Binary64

/-!
# Reading decimals

The plain notation of numbers: digits with an optional sign, point and exponent, rounded to the
nearest double. The words for infinity and for what is not a number are known as well.
-/

namespace TemplateAudit.Decimal

set_option autoImplicit false

/-- The value of a digit in a base up to sixteen. -/
def digit? (base : Nat) (c : Char) : Option Nat :=
  let n := c.toNat
  let value :=
    if 48 ≤ n ∧ n ≤ 57 then n - 48
    else if 97 ≤ n ∧ n ≤ 102 then n - 87
    else if 65 ≤ n ∧ n ≤ 70 then n - 55
    else 16
  if value < base then some value else none

/-- The number that some digits stand for; there must be at least one. -/
def digits? (base : Nat) (cs : List Char) : Option Nat :=
  if cs.isEmpty then none
  else (cs.mapM (digit? base)).map fun ds => ds.foldl (fun n d => n * base + d) 0

def signed (cs : List Char) : Bool × List Char :=
  match cs with
  | '-' :: rest => (true, rest)
  | '+' :: rest => (false, rest)
  | _ => (false, cs)

def integer? (cs : List Char) : Option Int :=
  let (negative, rest) := signed cs
  (digits? 10 rest).map fun n => if negative then -Int.ofNat n else Int.ofNat n

/-- The power of ten after the letter that marks it. -/
def power? (cs : List Char) : Option Int :=
  match cs with
  | [] => some 0
  | c :: rest => if c = 'e' || c = 'E' then integer? rest else none

/-- A number without sign: digits before or after a point, and an optional power of ten. -/
def unsigned? (cs : List Char) : Option Scientific :=
  let whole := cs.takeWhile Char.isDigit
  let rest := cs.dropWhile Char.isDigit
  let (fraction, rest) := match rest with
    | '.' :: after => (after.takeWhile Char.isDigit, after.dropWhile Char.isDigit)
    | _ => ([], rest)
  match digits? 10 (whole ++ fraction), power? rest with
  | some n, some power => some ⟨n, power - Int.ofNat fraction.length⟩
  | _, _ => none

/-- A double in plain notation; letters of the words may have either case. -/
def double? (cs : List Char) : Option Double :=
  let (negative, rest) := signed cs
  let word := String.ofList (rest.map Char.toLower)
  if word = "inf" || word = "infinity" then some (.infinite negative)
  else if word = "nan" then some .notANumber
  else (unsigned? rest).map fun d => d.toDouble negative

end TemplateAudit.Decimal
