import TemplateAudit.Json.Printer
import TemplateAudit.Rule
import TemplateAudit.Text.Printable

/-!
# Explanations of rules

A rule is explained by its fields and its condition. Values are written with the names of their
kinds, and strings with every character escaped that has no shape of its own.
-/

namespace TemplateAudit.CommandLine

set_option autoImplicit false

open Decimal

/-- The code point of a character in braces. -/
def codeEscape (c : Char) : List Char :=
  ['\\', 'u', '{'] ++ Nat.toDigits 16 c.toNat ++ ['}']

def shownChar (c : Char) : List Char :=
  if c.toNat = 0 then ['\\', '0']
  else if c = '\t' then ['\\', 't']
  else if c = '\r' then ['\\', 'r']
  else if c = '\n' then ['\\', 'n']
  else if c = '\\' then ['\\', '\\']
  else if c = '"' then ['\\', '"']
  else if Text.isPrintable c then [c]
  else codeEscape c

def shownString (s : String) : String :=
  String.ofList ('"' :: s.toList.flatMap shownChar ++ ['"'])

def shownDouble : Double → String
  | .finite x => Format.explained.finite x
  | .infinite false => "inf"
  | .infinite true => "-inf"
  | .notANumber => "NaN"

mutual

/-- A value with the name of its kind. -/
def shownValue : Json → String
  | .null => "Null"
  | .bool b => "Bool(" ++ (if b then "true" else "false") ++ ")"
  | .number n => "Number(" ++ String.ofList n.text ++ ")"
  | .string s => "String(" ++ shownString s ++ ")"
  | .array items => "Array [" ++ shownItems items ++ "]"
  | .object members => "Object \x7b" ++ shownMembers members ++ "\x7d"

def shownItems : List Json → String
  | [] => ""
  | [item] => shownValue item
  | item :: rest => shownValue item ++ ", " ++ shownItems rest

def shownMembers : List (String × Json) → String
  | [] => ""
  | [(key, value)] => shownString key ++ ": " ++ shownValue value
  | (key, value) :: rest =>
    shownString key ++ ": " ++ shownValue value ++ ", " ++ shownMembers rest

end

def shownCondition : Condition → String
  | .equals value => "Equals(" ++ shownValue value ++ ")"
  | .differs value => "NotEquals(" ++ shownValue value ++ ")"
  | .present expected => "Exists(" ++ (if expected then "true" else "false") ++ ")"
  | .oneOf allowed => "OneOf([" ++ shownItems allowed ++ "])"
  | .matching pattern => "Matches(" ++ shownString pattern ++ ")"
  | .atLeast bound => "Min(" ++ shownDouble bound ++ ")"

def explanation (r : Rule) : List String :=
  ["Rule: " ++ r.id ++ " (" ++ r.name ++ ")",
    "Category: " ++ r.category.name,
    "Severity: " ++ r.severity.name,
    "Enabled: " ++ (if r.enabled then "true" else "false"),
    "Applies to: " ++ r.resourceType.getD "template",
    "",
    "Description:",
    "   " ++ r.description,
    "",
    "Check:",
    "   " ++ r.check.path ++ " " ++ shownCondition r.check.condition] ++
  (match r.check.default with
    | some value => ["   (assumed " ++ value.compact ++ " when absent)"]
    | none => []) ++
  ["",
    "Recommendation:",
    "   " ++ r.recommendation,
    "   " ++ r.helpUri]

end TemplateAudit.CommandLine
