import TemplateAudit.Decimal.Binary64

/-!
# JSON values

Objects keep their members in the order in which they were first written, so a value has one layout
as text. Equality forgets that order again: `Json.same` compares objects as maps, tells integers
from floats, and compares floats as numbers.
-/

namespace TemplateAudit

set_option autoImplicit false

open Decimal

/-- Whether an integer fits 64 bits, signed or unsigned. -/
abbrev Fits64 (n : Int) : Prop :=
  -9223372036854775808 ≤ n ∧ n < 18446744073709551616

structure Integer where
  value : Int
  inRange : Fits64 value
deriving DecidableEq

namespace Json

/-- A JSON number: an integer of at most 64 bits, or a finite double. -/
inductive Number where
  | int (value : Integer)
  | float (value : Finite)
deriving DecidableEq

namespace Number

/-- The integer itself when it fits 64 bits, else the nearest double. -/
def ofInt (n : Int) : Number :=
  if h : Fits64 n then .int ⟨n, h⟩ else .float (Finite.ofInt n)

/-- Equality of numbers of one kind; an integer never equals a float. -/
def same : Number → Number → Bool
  | .int a, .int b => a.value == b.value
  | .float a, .float b => a.same b
  | _, _ => false

def toFinite : Number → Finite
  | .int n => Finite.ofInt n.value
  | .float x => x

def toNat? : Number → Option Nat
  | .int n => if 0 ≤ n.value then some n.value.toNat else none
  | .float _ => none

end Number

end Json

/-- A JSON value; the members of an object stand in the order in which they were first written. -/
inductive Json where
  | null
  | bool (value : Bool)
  | number (value : Json.Number)
  | string (value : String)
  | array (items : List Json)
  | object (members : List (String × Json))

namespace Json

abbrev Members := List (String × Json)

def ofNat (n : Nat) : Json :=
  .number (Number.ofInt n)

def ofOption (value : Option Json) : Json :=
  value.getD .null

def Members.get? (members : Members) (key : String) : Option Json :=
  (members.find? fun m => m.1 == key).map (·.2)

/-- Sets a member: a new one goes to the end, an old one keeps its position. -/
def Members.set : Members → String → Json → Members
  | [], key, value => [(key, value)]
  | member :: rest, key, value =>
    if member.1 = key then (key, value) :: rest else member :: Members.set rest key value

/-- Members as an object holds them: of those with one key the first gives the position and the last
the value. -/
def Members.ofList (written : List (String × Json)) : Members :=
  written.foldl (fun members m => Members.set members m.1 m.2) []

/-- The member of an object; `none` for every other value. -/
def get? (value : Json) (key : String) : Option Json :=
  match value with
  | .object members => Members.get? members key
  | _ => none

def string? : Json → Option String
  | .string s => some s
  | _ => none

def bool? : Json → Option Bool
  | .bool b => some b
  | _ => none

def nat? : Json → Option Nat
  | .number n => n.toNat?
  | _ => none

def finite? : Json → Option Finite
  | .number n => some n.toFinite
  | _ => none

mutual

/-- Number of containers around the innermost values. -/
def depth : Json → Nat
  | .array items => itemsDepth items + 1
  | .object members => membersDepth members + 1
  | _ => 0

def itemsDepth : List Json → Nat
  | [] => 0
  | item :: rest => max (depth item) (itemsDepth rest)

def membersDepth : List (String × Json) → Nat
  | [] => 0
  | (_, value) :: rest => max (depth value) (membersDepth rest)

end

mutual

/-- Equality of values, with objects as maps. -/
def same : Json → Json → Bool
  | .null, .null => true
  | .bool a, .bool b => a == b
  | .number a, .number b => a.same b
  | .string a, .string b => a == b
  | .array a, .array b => sameItems a b
  | .object a, .object b => a.length == b.length && sameMembers a b
  | _, _ => false

def sameItems : List Json → List Json → Bool
  | [], [] => true
  | a :: as, b :: bs => same a b && sameItems as bs
  | _, _ => false

def sameMembers : List (String × Json) → Members → Bool
  | [], _ => true
  | (key, value) :: rest, others =>
    (match Members.get? others key with
      | some other => same value other
      | none => false) && sameMembers rest others

end

end Json

end TemplateAudit
