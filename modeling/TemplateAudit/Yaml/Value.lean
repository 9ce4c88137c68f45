import TemplateAudit.Decimal.Reader
import TemplateAudit.Json.Basic
import TemplateAudit.Yaml.Node

/-!
# YAML values

What a scalar stands for is settled by its text when it is plain and has no tag: null, a truth
value, an integer of at most 64 bits, a double, or else a string. A core tag says what it stands for
in whatever style it is written; other scalars are strings. Collections nest at most 128 deep, which
also ends what refers to itself. How often references are followed in all is not limited here: a
document in which it is more than a hundred times for each scalar, reference, and start or end of a
collection is read and not refused.
-/

namespace TemplateAudit.Yaml

set_option autoImplicit false

open Decimal

inductive Value where
  | null
  | bool (value : Bool)
  /-- An integer, which is signed when it has a minus or the tag of an integer. -/
  | int (value : Integer) (signed : Bool := false)
  | float (value : Double)
  | string (value : String)
  | sequence (items : List Value)
  | mapping (entries : List (Value × Value))

/-- What a scalar stands for; integers beyond 64 bits cannot be represented. -/
inductive Scalar where
  | null
  | bool (value : Bool)
  | int (value : Integer) (signed : Bool)
  | wide
  | float (value : Double)
  | string (value : String)

namespace Scalar

/-- The base that letters after a zero stand for. -/
def base? (letter : Char) : Option Nat :=
  match letter with
  | 'x' => some 16
  | 'o' => some 8
  | 'b' => some 2
  | _ => none

def unsigned? (base : Nat) (cs : List Char) : Option Nat :=
  match cs with
  | '+' :: rest => digits? base rest
  | _ => digits? base cs

/-- An integer in another base than ten. -/
def based? (cs : List Char) : Option Int :=
  match cs with
  | '-' :: '0' :: letter :: rest =>
    (base? letter).bind fun base => (digits? base rest).map fun n => -Int.ofNat n
  | '+' :: '0' :: letter :: rest | '0' :: letter :: rest =>
    (base? letter).bind fun base => (unsigned? base rest).map Int.ofNat
  | _ => none

/-- Whether an integer fits 128 bits, signed or unsigned. -/
abbrev Fits128 (n : Int) : Prop :=
  -170141183460469231731687303715884105728 ≤ n ∧ n < 340282366920938463463374607431768211456

def ofInt? (signed : Bool) (n : Int) : Option Scalar :=
  if h : Fits64 n then some (.int ⟨n, h⟩ signed)
  else if Fits128 n then some .wide
  else none

/-- Whether a text is digits that start with a zero; such a text is no number. -/
def isPadded (cs : List Char) : Bool :=
  match (signed cs).2 with
  | '0' :: second :: rest => (second :: rest).all Char.isDigit
  | _ => false

/-- The special doubles and those in plain notation that are finite. -/
def double? (cs : List Char) : Option Double :=
  let word := String.ofList (cs.dropWhile (· == '+'))
  let text := String.ofList cs
  if word = ".inf" || word = ".Inf" || word = ".INF" then some (.infinite false)
  else if text = "-.inf" || text = "-.Inf" || text = "-.INF" then some (.infinite true)
  else if text = ".nan" || text = ".NaN" || text = ".NAN" then some .notANumber
  else match Decimal.double? cs with
    | some (.finite x) => some (.finite x)
    | _ => none

/-- What a plain scalar without tag stands for. -/
def ofPlain (text : String) : Scalar :=
  let cs := text.toList
  let negative := (signed cs).1
  let based := match based? cs with
    | some n => if Fits64 n then ofInt? negative n else none
    | none => none
  if text = "~" || text = "null" then .null
  else if text = "true" then .bool true
  else if text = "false" then .bool false
  else match based with
    | some scalar => scalar
    | none =>
      if isPadded cs then .string text
      else match (Decimal.integer? cs).bind (ofInt? negative) with
        | some scalar => scalar
        | none => match double? cs with
          | some x => .float x
          | none => .string text

/-- What a scalar with one of the core tags stands for; its text must have that form. -/
def ofCoreTag? (suffix text : String) : Option Scalar :=
  match suffix with
  | "bool" =>
    if text = "true" then some (.bool true)
    else if text = "false" then some (.bool false)
    else none
  | "int" =>
    match Decimal.integer? text.toList with
    | some n =>
      if h : -9223372036854775808 ≤ n ∧ n < 9223372036854775808 then
        some (.int ⟨n, h.1, by omega⟩ true)
      else none
    | none => none
  | "float" => (Decimal.double? text.toList).map .float
  | "null" => if text = "~" || text = "null" then some .null else none
  | _ => some (.string text)

/-- What a scalar stands for; other tags than the core ones make it a string. -/
def read? (plain : Bool) (tag : Option Tag) (text : String) : Option Scalar :=
  match tag with
  | some tag => if tag.handle = "!!" then ofCoreTag? tag.suffix text else some (.string text)
  | none => some (if plain then ofPlain text else .string text)

def value? : Scalar → Option Value
  | .null => some .null
  | .bool b => some (.bool b)
  | .int n signed => some (.int n signed)
  | .wide => none
  | .float x => some (.float x)
  | .string s => some (.string s)

/-- The scalar as a JSON value, in which a double that is not finite is null. -/
def json? : Scalar → Option Json
  | .null => some .null
  | .bool b => some (.bool b)
  | .int n _ => some (.number (.int n))
  | .wide => none
  | .float (.finite x) => some (.number (.float x))
  | .float _ => some .null
  | .string s => some (.string s)

end Scalar

def nestingLimit : Nat := 128

namespace Document

def target? (d : Document) (anchor : Nat) : Option Node :=
  d.anchors.lookup anchor

def follow? (d : Document) (node : Node) : Option Node :=
  match node with
  | .alias anchor => d.target? anchor
  | _ => some node

def text? (d : Document) (node : Node) : Option String :=
  match d.follow? node with
  | some (.scalar _ _ text) => some text
  | _ => none

/-- What a node stands for, in which collections nest at most `room` deep. -/
def valueAt? (d : Document) : Nat → Node → Option Value
  | room, node =>
    match room, d.follow? node with
    | _, some (.scalar plain tag text) => (Scalar.read? plain tag text).bind Scalar.value?
    | room + 1, some (.sequence items) => .sequence <$> items.mapM (valueAt? d room)
    | room + 1, some (.mapping entries) =>
      .mapping <$> entries.mapM fun entry => do
        return (← valueAt? d room entry.1, ← valueAt? d room entry.2)
    | _, _ => none

/-- The JSON value of a node, in which collections nest at most `room` deep. Keys must be scalars,
whose texts they are. -/
def jsonAt? (d : Document) : Nat → Node → Option Json
  | room, node =>
    match room, d.follow? node with
    | _, some (.scalar plain tag text) => (Scalar.read? plain tag text).bind Scalar.json?
    | room + 1, some (.sequence items) => .array <$> items.mapM (jsonAt? d room)
    | room + 1, some (.mapping entries) => do
      let members ← entries.mapM fun entry => do
        return (← d.text? entry.1, ← jsonAt? d room entry.2)
      return .object (Json.Members.ofList members)
    | _, _ => none

def value? (d : Document) : Option Value :=
  d.valueAt? nestingLimit d.root

end Document

def Value.read? (text : String) : Option Value :=
  (Document.read? text).bind Document.value?

end TemplateAudit.Yaml
