import TemplateAudit.Form
import TemplateAudit.Severity

/-!
# Rules

A rule asks that a property of a template, or of every resource of one type, satisfies a condition.
-/

namespace TemplateAudit

set_option autoImplicit false

/-- Whether a rule belongs to the curated security subset. -/
inductive Category where
  | security
  | general
deriving DecidableEq

namespace Category

def name : Category → String
  | .security => "security"
  | .general => "general"

def ofName? : String → Option Category
  | "security" => some .security
  | "general" => some .general
  | _ => none

def ofTree? {α : Type} [Tree α] (tree : α) : Option Category :=
  (Tree.plainVariant? ["security", "general"] tree).bind ofName?

end Category

inductive Condition where
  | equals (value : Json)
  | differs (value : Json)
  /-- The property is there, or is not there. -/
  | present (expected : Bool)
  | oneOf (allowed : List Json)
  /-- A string that a pattern matches. -/
  | matching (pattern : String)
  | atLeast (bound : Decimal.Double)

namespace Condition

def names : List String :=
  ["equals", "not_equals", "exists", "one_of", "matches", "min"]

/-- Conditions are written as their name applied to their argument. -/
def ofTree? {α : Type} [Tree α] (tree : α) : Option Condition :=
  match Tree.variant? names tree with
  | some (name, some payload) =>
    match name with
    | "equals" => (Tree.json? payload).map .equals
    | "not_equals" => (Tree.json? payload).map .differs
    | "exists" => (Tree.bool? payload).map .present
    | "one_of" => (Tree.list? Tree.json? payload).map .oneOf
    | "matches" => (Tree.string? payload).map .matching
    | "min" => (Tree.double? payload).map .atLeast
    | _ => none
  | _ => none

def toForm {α : Type} [Form α] : Condition → α
  | .equals value => Form.record [("equals", Form.json value)]
  | .differs value => Form.record [("not_equals", Form.json value)]
  | .present expected => Form.record [("exists", Form.bool expected)]
  | .oneOf allowed => Form.record [("one_of", Form.list (allowed.map Form.json))]
  | .matching pattern => Form.record [("matches", Form.string pattern)]
  | .atLeast bound => Form.record [("min", Form.double bound)]

def pattern? : Condition → Option String
  | .matching pattern => some pattern
  | _ => none

end Condition

/-- A condition on a property, and the value that the property has when it is absent. -/
structure Check where
  path : String
  condition : Condition
  default : Option Json := none

namespace Check

def ofTree? {α : Type} [Tree α] (tree : α) : Option Check :=
  match Tree.fields? [["path"], ["condition"], ["default"]] tree with
  | some [path, condition, default] => do
    return ⟨← Tree.required? Tree.string? path, ← Tree.required? Condition.ofTree? condition,
      ← Tree.optionalField? Tree.json? default⟩
  | _ => none

def toForm {α : Type} [Form α] (c : Check) : α :=
  Form.record [("path", Form.string c.path), ("condition", c.condition.toForm),
    ("default", Form.optional (c.default.map Form.json))]

end Check

structure Rule where
  id : String
  name : String
  description : String
  helpUri : String
  recommendation : String
  severity : Severity
  category : Category
  enabled : Bool := true
  /-- The type of the resources that are checked; the template itself when absent. -/
  resourceType : Option String := none
  check : Check

namespace Rule

def fieldNames : List (List String) :=
  [["id"], ["name"], ["description"], ["help_uri"], ["recommendation"], ["severity"], ["category"],
    ["enabled"], ["resource_type"], ["check"]]

/-- The fields `enabled` and `resource_type` may be left out of a map. -/
def ofTree? {α : Type} [Tree α] (tree : α) : Option Rule :=
  match Tree.fields? fieldNames tree with
  | some [id, name, description, helpUri, recommendation, severity, category, enabled,
      resourceType, check] => do
    return {
      id := ← Tree.required? Tree.string? id
      name := ← Tree.required? Tree.string? name
      description := ← Tree.required? Tree.string? description
      helpUri := ← Tree.required? Tree.string? helpUri
      recommendation := ← Tree.required? Tree.string? recommendation
      severity := ← Tree.required? Severity.ofTree? severity
      category := ← Tree.required? Category.ofTree? category
      enabled := ← Tree.defaulted? true Tree.bool? enabled
      resourceType := ← Tree.optionalField? Tree.string? resourceType
      check := ← Tree.required? Check.ofTree? check }
  | _ => none

def toForm {α : Type} [Form α] (r : Rule) : α :=
  Form.record [("id", Form.string r.id), ("name", Form.string r.name),
    ("description", Form.string r.description), ("help_uri", Form.string r.helpUri),
    ("recommendation", Form.string r.recommendation),
    ("severity", Form.string r.severity.name), ("category", Form.string r.category.name),
    ("enabled", Form.bool r.enabled),
    ("resource_type", Form.optional (r.resourceType.map Form.string)),
    ("check", r.check.toForm)]

end Rule

end TemplateAudit
