import TemplateAudit.Decimal.Format
import TemplateAudit.Json.Printer
import TemplateAudit.Yaml.Value

/-!
# Writing YAML

Block style with two blanks a level. A string is written plain unless its text could be taken for
something else or holds a mark of the notation; then it is quoted as in JSON.
-/

namespace TemplateAudit.Yaml

set_option autoImplicit false

open Decimal

def isLeadingMark (c : Char) : Bool :=
  "&*?|-<>=!%@.".toList.contains c

def isMark (c : Char) : Bool :=
  let n := c.toNat
  ":\x7b\x7d[],#\"'\\\t\n\r".toList.contains c || n == 96 || n ≤ 6 || (14 ≤ n && n ≤ 26) ||
    (28 ≤ n && n ≤ 31)

/-- The words that other readers take for truth values or null. -/
def reservedWords : List String :=
  ["yes", "Yes", "YES", "no", "No", "NO", "True", "TRUE", "true", "False", "FALSE", "false",
    "on", "On", "ON", "off", "Off", "OFF", "null", "Null", "NULL", "~"]

def looksNumeric (cs : List Char) : Bool :=
  (Decimal.double? cs).isSome

def needsQuotes (s : String) : Bool :=
  let cs := s.toList
  match cs with
  | [] => true
  | first :: _ =>
    first == ' ' || cs.getLast? == some ' ' || isLeadingMark first || cs.any isMark ||
      reservedWords.contains s || ['0', 'x'].isPrefixOf cs || looksNumeric cs

/-- A character inside quotes: as in JSON, and the delete character escaped too. -/
def quotedChar (c : Char) : List Char :=
  if c.toNat = 127 then ['\\', 'u', '0', '0', '7', 'f'] else Json.escapeChar c

def stringChars (s : String) : List Char :=
  if needsQuotes s then '"' :: s.toList.flatMap quotedChar ++ ['"'] else s.toList

def doubleChars : Double → List Char
  | .finite x => (Format.yaml.finite x).toList
  | .infinite false => ['.', 'i', 'n', 'f']
  | .infinite true => ['-', '.', 'i', 'n', 'f']
  | .notANumber => ['.', 'n', 'a', 'n']

namespace Value

def isBlock : Value → Bool
  | .sequence items => !items.isEmpty
  | .mapping entries => !entries.isEmpty
  | _ => false

mutual

/-- A value whose lines after the first start at `level`. -/
def chars : Nat → Value → List Char
  | _, .null => ['~']
  | _, .bool true => ['t', 'r', 'u', 'e']
  | _, .bool false => ['f', 'a', 'l', 's', 'e']
  | _, .int n _ => (toString n.value).toList
  | _, .float x => doubleChars x
  | _, .string s => stringChars s
  | _, .sequence [] => ['[', ']']
  | level, .sequence (item :: rest) => '-' :: ' ' :: chars (level + 1) item ++ itemChars level rest
  | _, .mapping [] => ['{', '}']
  | level, .mapping ((key, value) :: rest) =>
    chars level key ++ ':' :: argumentChars level value ++ entryChars level rest

/-- The value after a key: on the same line, or from the next line on one level deeper. -/
def argumentChars : Nat → Value → List Char
  | level, value =>
    (if value.isBlock then Json.lineBreak (level + 1) else [' ']) ++ chars (level + 1) value

def itemChars : Nat → List Value → List Char
  | _, [] => []
  | level, item :: rest =>
    Json.lineBreak level ++ '-' :: ' ' :: chars (level + 1) item ++ itemChars level rest

def entryChars : Nat → List (Value × Value) → List Char
  | _, [] => []
  | level, (key, value) :: rest =>
    Json.lineBreak level ++ chars level key ++ ':' :: argumentChars level value ++
      entryChars level rest

end

def render (value : Value) : String :=
  "---\n" ++ String.ofList (chars 0 value) ++ "\n"

end Value

end TemplateAudit.Yaml
