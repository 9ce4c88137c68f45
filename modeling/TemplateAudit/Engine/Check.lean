import TemplateAudit.Finding
import TemplateAudit.Pattern.Parser
import TemplateAudit.Rule
import TemplateAudit.Text.Blank

/-!
# Checking properties

A property is looked up along a dotted path, keys up to ASCII case and numbers as positions. A
violated condition is reported at the property, or at the object that should declare it. Checks on
resources visit the entries of `resources`, as a list or by name, and the resources nested in them.
-/

namespace TemplateAudit

set_option autoImplicit false

/-- A check whose pattern, if it has one, has been read. -/
structure ReadyCheck where
  path : String
  condition : Condition
  default : Option Json
  pattern : Option Pattern

namespace ReadyCheck

def steps (path : String) : List String :=
  ((Path.splitPoints path.toList).filter (!·.isEmpty)).map String.ofList

/-- The member with exactly this key, else the first whose key is equal up to ASCII case. -/
def member? (members : Json.Members) (key : String) : Option (String × Json) :=
  match members.find? fun m => m.1 == key with
  | some m => some m
  | none => members.find? fun m => Text.asciiEq m.1 key

/-- One step down from a value that was found at `path`. -/
def down? (value : Json) (path step : String) : Option (Json × String) :=
  match value with
  | .object members => (member? members step).map fun m => (m.2, Path.join path m.1)
  | .array items => do
    let position ← Path.position? step.toList
    let item ← items[position]?
    return (item, Path.item path position)
  | _ => none

/-- The value at the end of some steps, and the path at which it was found. -/
def follow? : List String → Json → String → Option (Json × String)
  | [], value, path => some (value, path)
  | step :: rest, value, path =>
    match down? value path step with
    | some (next, nextPath) => follow? rest next nextPath
    | none => none

def lookup? (value : Json) (path : String) : Option (Json × String) :=
  follow? (steps path) value ""

/-- Whether a condition holds of a property that may be absent. -/
def isSatisfied (c : ReadyCheck) (value : Option Json) : Bool :=
  let effective := value.or c.default
  match c.condition with
  | .equals expected => effective.any (·.same expected)
  | .differs unexpected => !effective.any (·.same unexpected)
  | .present expected => value.isSome == expected
  | .oneOf allowed => effective.any fun v => allowed.any (·.same v)
  | .matching _ => (effective.bind Json.string?).any fun s => c.pattern.any (·.isMatch s)
  | .atLeast bound => (effective.bind Json.finite?).any fun n => bound.atLeast n

/-- The path at which a violation under a value is reported; `none` when there is none. -/
def violation? (c : ReadyCheck) (value : Json) (base : String) : Option String :=
  let found := lookup? value c.path
  if c.isSatisfied (found.map (·.1)) then none
  else match found with
    | some (_, path) => some (Path.join base path)
    | none => some base

/-- Whether a resource is of a type, up to ASCII case. -/
def isOfType (resource : Json) (type : String) : Bool :=
  ((resource.get? "type").bind Json.string?).any fun t => Text.asciiEq t type

def resourceViolation? (c : ReadyCheck) (type : String) (path : String) (resource : Json) :
    Option String :=
  if isOfType resource type then c.violation? resource path else none

/-- The finding of a resource: its own violation with the nested findings, or the resource as a
passing place when only nested ones are left. -/
def resourceFinding (c : ReadyCheck) (type : String) (path : String) (resource : Json)
    (children : List (Finding String)) : List (Finding String) :=
  match c.resourceViolation? type path resource with
  | some place => [.node false place children]
  | none => if children.isEmpty then [] else [.node true path children]

mutual

def visit (c : ReadyCheck) (type : String) (path : String) : Json → List (Finding String)
  | .object members => visitMembers c type path members
  | _ => []

def visitMembers (c : ReadyCheck) (type : String) (path : String) :
    List (String × Json) → List (Finding String)
  | [] => []
  | (key, value) :: rest =>
    if key = "resources" then visitContainer c type (Path.join path "resources") value
    else visitMembers c type path rest

/-- The findings of resources given as a list or by name. -/
def visitContainer (c : ReadyCheck) (type : String) (path : String) : Json → List (Finding String)
  | .array items => visitItems c type path 0 items
  | .object named => visitNamed c type path named
  | _ => []

def visitItems (c : ReadyCheck) (type : String) (path : String) (position : Nat) :
    List Json → List (Finding String)
  | [] => []
  | resource :: rest =>
    let here := Path.item path position
    c.resourceFinding type here resource (visit c type here resource) ++
      visitItems c type path (position + 1) rest

def visitNamed (c : ReadyCheck) (type : String) (path : String) :
    List (String × Json) → List (Finding String)
  | [] => []
  | (name, resource) :: rest =>
    let here := Path.join path name
    c.resourceFinding type here resource (visit c type here resource) ++
      visitNamed c type path rest

end

/-- The findings of a check on a template or on its resources of one type. -/
def findings (c : ReadyCheck) (resourceType : Option String) (value : Json) :
    List (Finding String) :=
  match resourceType with
  | none => ((c.violation? value "").map fun place => Finding.node false place []).toList
  | some type => c.visit type "" value

end ReadyCheck

end TemplateAudit
