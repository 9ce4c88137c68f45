import TemplateAudit.Yaml.Value

/-!
# Writing records

Records are written as JSON values and as YAML values. `Form` is what these have in common, so that
the fields of a record are listed once.
-/

namespace TemplateAudit

set_option autoImplicit false

/-- A kind of value that records can be written as. -/
class Form (α : Type) where
  bool : Bool → α
  string : String → α
  double : Decimal.Double → α
  list : List α → α
  record : List (String × α) → α
  json : Json → α

namespace Form

variable {α : Type}

def optional [Form α] (value : Option α) : α :=
  value.getD (json .null)

/-- A double as a JSON value; JSON has none that are not finite. -/
def jsonDouble : Decimal.Double → Json
  | .finite x => .number (.float x)
  | _ => .null

instance : Form Json where
  bool := .bool
  string := .string
  double := jsonDouble
  list := .array
  record := .object
  json := id

end Form

namespace Yaml.Value

mutual

def ofJson : Json → Value
  | .null => .null
  | .bool b => .bool b
  | .number (.int n) => .int n
  | .number (.float x) => .float (.finite x)
  | .string s => .string s
  | .array items => .sequence (ofItems items)
  | .object members => .mapping (ofMembers members)

def ofItems : List Json → List Value
  | [] => []
  | item :: rest => ofJson item :: ofItems rest

def ofMembers : List (String × Json) → List (Value × Value)
  | [] => []
  | (key, value) :: rest => (.string key, ofJson value) :: ofMembers rest

end

instance : Form Value where
  bool := .bool
  string := .string
  double := .float
  list := .sequence
  record fields := .mapping (fields.map fun f => (.string f.1, f.2))
  json := ofJson

end Yaml.Value

end TemplateAudit
