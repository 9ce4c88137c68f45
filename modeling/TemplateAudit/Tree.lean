import TemplateAudit.Json.Reader

/-!
# Reading records from trees

Records are read from JSON values, from JSON texts whose spelling is kept and from YAML documents.
`Tree` is what these have in common; the rules for records are the same for all of them. A record
is a map from field names, in which unknown names are passed over and no field may be given twice,
or the list of its fields in order, of which the last ones may be left out.
-/

namespace TemplateAudit

set_option autoImplicit false

/-- A tree that records can be read from. -/
class Tree (α : Type) where
  /-- The entries of a map in written order, repeated names included. -/
  members? : α → Option (List (String × α))
  items? : α → Option (List α)
  string? : α → Option String
  bool? : α → Option Bool
  /-- An integer that is not negative. -/
  nat? : α → Option Nat
  double? : α → Option Decimal.Double
  /-- The tree itself unless it stands for an absent value. -/
  optional? : α → Option (Option α)
  isNull : α → Bool
  /-- The tree as a JSON value. -/
  json? : α → Option Json
  /-- The name of an alternative and what it is applied to, given the names there are. -/
  variant? : List String → α → Option (String × Option α)

namespace Tree

variable {α β : Type}

/-- The value of the field with these names; fails when it is given twice. -/
def field? (members : List (String × α)) (names : List String) : Option (Option α) :=
  match members.filter fun m => names.contains m.1 with
  | [] => some none
  | [m] => some (some m.2)
  | _ => none

def fields? [Tree α] (names : List (List String)) (tree : α) : Option (List (Option α)) :=
  match members? tree with
  | some members => names.mapM (field? members)
  | none =>
    match items? tree with
    | some items =>
      if items.length ≤ names.length then
        some (items.map some ++ List.replicate (names.length - items.length) none)
      else none
    | none => none

def required? (read : α → Option β) (field : Option α) : Option β :=
  field.bind read

def defaulted? (default : β) (read : α → Option β) (field : Option α) : Option β :=
  match field with
  | some tree => read tree
  | none => some default

/-- A field that may be absent, left out or not. -/
def optionalField? [Tree α] (read : α → Option β) (field : Option α) : Option (Option β) :=
  match field with
  | none => some none
  | some tree =>
    match optional? tree with
    | none => none
    | some none => some none
    | some (some value) => (read value).map some

def list? [Tree α] (read : α → Option β) (tree : α) : Option (List β) :=
  (items? tree).bind fun items => items.mapM read

def word32? [Tree α] (tree : α) : Option UInt32 :=
  match nat? tree with
  | some n => if n < UInt32.size then some (UInt32.ofNat n) else none
  | none => none

/-- An alternative that is applied to nothing. -/
def plainVariant? [Tree α] (names : List String) (tree : α) : Option String :=
  match variant? names tree with
  | some (name, none) => some name
  | some (name, some payload) => if isNull payload then some name else none
  | none => none

instance : Tree Json where
  members?
    | .object members => some members
    | _ => none
  items?
    | .array items => some items
    | _ => none
  string? := Json.string?
  bool? := Json.bool?
  nat? := Json.nat?
  double? value := value.finite?.map .finite
  optional?
    | .null => some none
    | value => some (some value)
  isNull
    | .null => true
    | _ => false
  json? := some
  variant? _
    | .string name => some (name, none)
    | .object [(name, payload)] => some (name, some payload)
    | _ => none

def writtenMembers? : List (List Json.StringUnit × Json.Written) →
    Option (List (String × Json.Written))
  | [] => some []
  | (key, value) :: rest =>
    match Json.decodeString? key, writtenMembers? rest with
    | some name, some members => some ((name, value) :: members)
    | _, _ => none

instance : Tree Json.Written where
  members?
    | .object members => writtenMembers? members
    | _ => none
  items?
    | .array items => some items
    | _ => none
  string?
    | .string units => Json.decodeString? units
    | _ => none
  bool?
    | .bool b => some b
    | _ => none
  nat?
    | .number text => text.number?.bind Json.Number.toNat?
    | _ => none
  double?
    | .number text => text.number?.map fun n => .finite n.toFinite
    | _ => none
  optional?
    | .null => some none
    | written => some (some written)
  isNull
    | .null => true
    | _ => false
  json? := Json.Written.toJson? 128
  variant? _
    | .string units => (Json.decodeString? units).map fun name => (name, none)
    | .object [(key, payload)] => (Json.decodeString? key).map fun name => (name, some payload)
    | _ => none

end Tree

end TemplateAudit
