import TemplateAudit.Tree
import TemplateAudit.Yaml.Value

/-!
# Reading records from YAML documents

A field that is to be a string takes the text of any scalar, whatever else that text could stand
for. An alternative without argument is a scalar; one with an argument is a mapping of one entry, or
a scalar whose tag names it.
-/

namespace TemplateAudit.Yaml

set_option autoImplicit false

open Decimal

/-- A node of a document, and how many collections may still nest in it. -/
structure View where
  document : Document
  node : Node
  room : Nat

namespace View

def ofDocument (d : Document) : View :=
  ⟨d, d.root, nestingLimit⟩

def target? (v : View) : Option Node :=
  v.document.follow? v.node

def focus (v : View) (node : Node) : View :=
  { v with node := node }

def inside (v : View) (node : Node) : View :=
  { v with node := node, room := v.room - 1 }

def members? (v : View) : Option (List (String × View)) :=
  match v.target? with
  | some (.mapping entries) =>
    if v.room = 0 then none
    else entries.mapM fun entry =>
      (v.document.text? entry.1).map fun name => (name, v.inside entry.2)
  | _ => none

def items? (v : View) : Option (List View) :=
  match v.target? with
  | some (.sequence items) => if v.room = 0 then none else some (items.map v.inside)
  | _ => none

def scalar? (v : View) : Option Scalar :=
  match v.target? with
  | some (.scalar plain tag text) => Scalar.read? plain tag text
  | _ => none

def double? (v : View) : Option Double :=
  match v.scalar? with
  | some (.int n _) => some (.finite (Finite.ofInt n.value))
  | some (.float x) => some x
  | _ => none

/-- Whether a plain scalar stands for an absent value; `none` when its tag says so and its text
does not. -/
def isAbsent? (tag : Option Tag) (text : String) : Option Bool :=
  let absent := text = "~" || text = "null"
  match tag with
  | none => some absent
  | some tag =>
    if tag = ⟨"!!", "null"⟩ then if absent then some true else none
    else some false

def optional? (v : View) : Option (Option View) :=
  match v.target? with
  | some (.scalar true tag text) =>
    (isAbsent? tag text).map fun absent => if absent then none else some v
  | some _ => some (some v)
  | none => none

def variant? (names : List String) (v : View) : Option (String × Option View) :=
  match v.target? with
  | some (.scalar plain tag text) =>
    match tag with
    | some ⟨"!", name⟩ =>
      if names.contains name then some (name, some (v.focus (.scalar plain tag text)))
      else some (text, none)
    | _ => some (text, none)
  | some (.mapping [(.scalar _ _ name, argument)]) => some (name, some (v.focus argument))
  | _ => none

instance : Tree View where
  members? := members?
  items? := items?
  string? v := v.document.text? v.node
  bool? v := match v.scalar? with
    | some (.bool b) => some b
    | _ => none
  nat? v := match v.scalar? with
    | some (.int n _) => if 0 ≤ n.value then some n.value.toNat else none
    | _ => none
  double? := double?
  optional? := optional?
  isNull v := match v.scalar? with
    | some .null => true
    | _ => false
  json? v := v.document.jsonAt? v.room v.node
  variant? := variant?

end View

end TemplateAudit.Yaml
