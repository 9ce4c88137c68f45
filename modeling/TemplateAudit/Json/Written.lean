import TemplateAudit.Text.Blank

/-!
# JSON as written

`Written` is a JSON text with its spelling kept: numbers are still digits, strings are still
escapes, and an object may repeat a key. `Written.read?` accepts exactly the grammar of RFC 8259;
what numbers and escapes stand for is settled later, and only for the parts that are looked at.
-/

namespace TemplateAudit.Json

set_option autoImplicit false

/-- A number as written: digits before the point, after it, and in the exponent. -/
structure NumberText where
  negative : Bool
  whole : List Nat
  fraction : Option (List Nat)
  /-- Whether the exponent is negative, and its digits. -/
  exponent : Option (Bool × List Nat)
deriving DecidableEq

/-- One unit of a string literal: a character or a 16-bit unit given in hexadecimal. -/
inductive StringUnit where
  | char (value : Char)
  | code (value : Nat)
deriving DecidableEq

/-- A JSON text with its spelling kept. -/
inductive Written where
  | null
  | bool (value : Bool)
  | number (text : NumberText)
  | string (text : List StringUnit)
  | array (items : List Written)
  | object (members : List (List StringUnit × Written))

namespace Written

def skipBlanks (cs : List Char) : List Char :=
  cs.dropWhile Text.isJsonBlank

def hexDigit? (c : Char) : Option Nat :=
  let n := c.toNat
  if 48 ≤ n ∧ n ≤ 57 then some (n - 48)
  else if 97 ≤ n ∧ n ≤ 102 then some (n - 87)
  else if 65 ≤ n ∧ n ≤ 70 then some (n - 55)
  else none

def escaped? (c : Char) : Option Char :=
  if c = '"' then some '"'
  else if c = '\\' then some '\\'
  else if c = '/' then some '/'
  else if c = 'b' then some (Char.ofNat 8)
  else if c = 'f' then some (Char.ofNat 12)
  else if c = 'n' then some (Char.ofNat 10)
  else if c = 'r' then some (Char.ofNat 13)
  else if c = 't' then some (Char.ofNat 9)
  else none

def fourHex? (a b c d : Char) : Option Nat :=
  match hexDigit? a, hexDigit? b, hexDigit? c, hexDigit? d with
  | some w, some x, some y, some z => some (((w * 16 + x) * 16 + y) * 16 + z)
  | _, _, _, _ => none

/-- The units of a string literal after its opening quote, and the text after its closing one. -/
def stringUnits? : List Char → Option (List StringUnit × List Char)
  | [] => none
  | '"' :: rest => some ([], rest)
  | '\\' :: 'u' :: a :: b :: c :: d :: rest =>
    match fourHex? a b c d, stringUnits? rest with
    | some unit, some (units, after) => some (.code unit :: units, after)
    | _, _ => none
  | '\\' :: c :: rest =>
    match escaped? c, stringUnits? rest with
    | some e, some (units, after) => some (.char e :: units, after)
    | _, _ => none
  | c :: rest =>
    if c.toNat < 32 || c = '\\' then none
    else (stringUnits? rest).map fun (units, after) => (.char c :: units, after)

def digit? (c : Char) : Option Nat :=
  if 48 ≤ c.toNat ∧ c.toNat ≤ 57 then some (c.toNat - 48) else none

def digits : List Char → List Nat × List Char
  | [] => ([], [])
  | c :: rest =>
    match digit? c with
    | some d =>
      let (ds, after) := digits rest
      (d :: ds, after)
    | none => ([], c :: rest)

def digits1? (cs : List Char) : Option (List Nat × List Char) :=
  match digits cs with
  | ([], _) => none
  | found => some found

/-- The part of a number before its point: a zero alone, or digits that start with another one. -/
def whole? (cs : List Char) : Option (List Nat × List Char) :=
  match cs with
  | '0' :: rest => some ([0], rest)
  | other => digits1? other

def fraction? : List Char → Option (Option (List Nat) × List Char)
  | '.' :: rest => (digits1? rest).map fun (ds, after) => (some ds, after)
  | other => some (none, other)

def exponentSign : List Char → Bool × List Char
  | '+' :: rest => (false, rest)
  | '-' :: rest => (true, rest)
  | other => (false, other)

def exponent? : List Char → Option (Option (Bool × List Nat) × List Char)
  | c :: rest =>
    if c = 'e' || c = 'E' then
      let (negative, digitsText) := exponentSign rest
      (digits1? digitsText).map fun (ds, after) => (some (negative, ds), after)
    else some (none, c :: rest)
  | [] => some (none, [])

/-- A number at the front of a text, its sign already taken off. -/
def number? (negative : Bool) (cs : List Char) : Option (NumberText × List Char) := do
  let (whole, afterWhole) ← whole? cs
  let (fraction, afterFraction) ← fraction? afterWhole
  let (exponent, rest) ← exponent? afterFraction
  return (⟨negative, whole, fraction, exponent⟩, rest)

mutual

def value? : Nat → List Char → Option (Written × List Char)
  | 0, _ => none
  | fuel + 1, cs =>
    match cs with
    | 'n' :: 'u' :: 'l' :: 'l' :: rest => some (.null, rest)
    | 't' :: 'r' :: 'u' :: 'e' :: rest => some (.bool true, rest)
    | 'f' :: 'a' :: 'l' :: 's' :: 'e' :: rest => some (.bool false, rest)
    | '"' :: rest => (stringUnits? rest).map fun (units, after) => (.string units, after)
    | '-' :: rest => (number? true rest).map fun (n, after) => (.number n, after)
    | '[' :: rest =>
      match skipBlanks rest with
      | ']' :: after => some (.array [], after)
      | other => (items? fuel other).map fun (items, after) => (.array items, after)
    | '{' :: rest =>
      match skipBlanks rest with
      | '}' :: after => some (.object [], after)
      | other => (members? fuel other).map fun (members, after) => (.object members, after)
    | other => (number? false other).map fun (n, after) => (.number n, after)

def items? : Nat → List Char → Option (List Written × List Char)
  | 0, _ => none
  | fuel + 1, cs =>
    match value? fuel cs with
    | none => none
    | some (item, rest) =>
      match skipBlanks rest with
      | ',' :: more => (items? fuel (skipBlanks more)).map fun (items, after) => (item :: items, after)
      | ']' :: after => some ([item], after)
      | _ => none

def members? : Nat → List Char → Option (List (List StringUnit × Written) × List Char)
  | 0, _ => none
  | fuel + 1, cs =>
    match cs with
    | '"' :: afterQuote =>
      match stringUnits? afterQuote with
      | none => none
      | some (key, afterKey) =>
        match skipBlanks afterKey with
        | ':' :: afterColon =>
          match value? fuel (skipBlanks afterColon) with
          | none => none
          | some (value, rest) =>
            match skipBlanks rest with
            | ',' :: more =>
              (members? fuel (skipBlanks more)).map fun (members, after) =>
                ((key, value) :: members, after)
            | '}' :: after => some ([(key, value)], after)
            | _ => none
        | _ => none
    | _ => none

end

/-- A whole text that is one value with blanks around it. Two units of fuel a character are enough,
since of any two nested calls one consumes a character. -/
def read? (text : List Char) : Option Written :=
  match value? (2 * text.length + 2) (skipBlanks text) with
  | some (value, rest) => if (skipBlanks rest).isEmpty then some value else none
  | none => none

end Written

end TemplateAudit.Json
