import TemplateAudit.Json.Basic
import TemplateAudit.Decimal.Format

/-!
# Writing JSON

Two layouts: `Json.compact` on one line without blanks, and `Json.pretty` with one member or item a
line and two blanks a level. Strings escape quotes, backslashes and control characters only.
-/

namespace TemplateAudit.Json

set_option autoImplicit false

open Decimal

def Number.text : Number → List Char
  | .int n => (toString n.value).toList
  | .float x => (Format.json.finite x).toList

def hexChar (n : Nat) : Char :=
  if n < 10 then Char.ofNat (48 + n) else Char.ofNat (87 + n)

def escapeChar (c : Char) : List Char :=
  if c = '"' then ['\\', '"']
  else if c = '\\' then ['\\', '\\']
  else if c.toNat = 8 then ['\\', 'b']
  else if c.toNat = 9 then ['\\', 't']
  else if c.toNat = 10 then ['\\', 'n']
  else if c.toNat = 12 then ['\\', 'f']
  else if c.toNat = 13 then ['\\', 'r']
  else if c.toNat < 32 then ['\\', 'u', '0', '0', hexChar (c.toNat / 16), hexChar (c.toNat % 16)]
  else [c]

def quote (s : String) : List Char :=
  '"' :: s.toList.flatMap escapeChar ++ ['"']

def lineBreak (level : Nat) : List Char :=
  '\n' :: List.replicate (2 * level) ' '

mutual

def compactChars : Json → List Char
  | .null => ['n', 'u', 'l', 'l']
  | .bool true => ['t', 'r', 'u', 'e']
  | .bool false => ['f', 'a', 'l', 's', 'e']
  | .number n => n.text
  | .string s => quote s
  | .array items => '[' :: compactItems items ++ [']']
  | .object members => '{' :: compactMembers members ++ ['}']

def compactItems : List Json → List Char
  | [] => []
  | item :: rest =>
    compactChars item ++ (if rest.isEmpty then [] else [',']) ++ compactItems rest

def compactMembers : List (String × Json) → List Char
  | [] => []
  | (key, value) :: rest =>
    quote key ++ ':' :: compactChars value ++ (if rest.isEmpty then [] else [',']) ++
      compactMembers rest

end

mutual

/-- A value in the layout of two blanks a level; its own lines start at `level`. -/
def prettyChars : Nat → Json → List Char
  | _, .null => ['n', 'u', 'l', 'l']
  | _, .bool true => ['t', 'r', 'u', 'e']
  | _, .bool false => ['f', 'a', 'l', 's', 'e']
  | _, .number n => n.text
  | _, .string s => quote s
  | _, .array [] => ['[', ']']
  | level, .array (item :: rest) =>
    '[' :: prettyItems level (item :: rest) ++ lineBreak level ++ [']']
  | _, .object [] => ['{', '}']
  | level, .object (member :: rest) =>
    '{' :: prettyMembers level (member :: rest) ++ lineBreak level ++ ['}']

def prettyItems : Nat → List Json → List Char
  | _, [] => []
  | level, item :: rest =>
    lineBreak (level + 1) ++ prettyChars (level + 1) item ++ (if rest.isEmpty then [] else [',']) ++
      prettyItems level rest

def prettyMembers : Nat → List (String × Json) → List Char
  | _, [] => []
  | level, (key, value) :: rest =>
    lineBreak (level + 1) ++ quote key ++ ':' :: ' ' :: prettyChars (level + 1) value ++
      (if rest.isEmpty then [] else [',']) ++ prettyMembers level rest

end

def compact (value : Json) : String :=
  String.ofList value.compactChars

def pretty (value : Json) : String :=
  String.ofList (prettyChars 0 value)

end TemplateAudit.Json
