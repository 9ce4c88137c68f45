import TemplateAudit.Yaml.Token

/-!
# YAML documents as written

A document is a tree of scalars, sequences and mappings in which a node may stand for another one by
its anchor. What an anchor stands for is kept beside the tree, since a node may lie inside the one
it refers to. Tags of collections mean nothing and are dropped. A text must hold exactly one
document.
-/

namespace TemplateAudit.Yaml

set_option autoImplicit false

inductive Node where
  /-- The node with an anchor, by its number. -/
  | alias (anchor : Nat)
  | scalar (plain : Bool) (tag : Option Tag) (text : String)
  | sequence (items : List Node)
  | mapping (entries : List (Node × Node))

/-- A document and the nodes that its anchors stand for. -/
structure Document where
  root : Node
  anchors : List (Nat × Node) := []

namespace Node

def absent : Node := .scalar true none "~"

end Node

/-- The tokens that are left, the anchors named so far, the last one first, and what they stand
for. -/
structure Composer where
  tokens : List Token
  names : List (String × Nat) := []
  anchors : List (Nat × Node) := []

abbrev Compose := StateT Composer Option

namespace Compose

def peek : Compose (Option Token) := do
  return (← get).tokens.head?

def skip : Compose Unit :=
  modify fun c => { c with tokens := c.tokens.drop 1 }

/-- Gives a new number to an anchor; a name may be used again. -/
def declare (name : String) : Compose Nat := do
  let number := (← get).names.length + 1
  modify fun c => { c with names := (name, number) :: c.names }
  return number

/-- The anchor and the tag of a node, in either order. -/
def properties : Compose (Option Nat × Option Tag) := do
  match ← peek with
  | some (.anchor name) =>
    skip
    let number ← declare name
    match ← peek with
    | some (.tag tag) =>
      skip
      return (some number, some tag)
    | _ => return (some number, none)
  | some (.tag tag) =>
    skip
    match ← peek with
    | some (.anchor name) =>
      skip
      return (some (← declare name), some tag)
    | _ => return (none, some tag)
  | _ => return (none, none)

def record (anchor : Option Nat) (node : Node) : Compose Node := do
  match anchor with
  | some number => modify fun c => { c with anchors := (number, node) :: c.anchors }
  | none => pure ()
  return node

def nextIn (tokens : List Token) : Compose Bool := do
  match ← peek with
  | some token => return tokens.contains token
  | none => return false

mutual

/-- A node; block collections and, as a value of a mapping, sequences without indentation are only
read where they may stand. -/
def node : Nat → Bool → Bool → Compose Node
  | 0, _, _ => failure
  | fuel + 1, block, unindented => do
    if let some (.alias name) ← peek then
      skip
      match (← get).names.lookup name with
      | some number => return .alias number
      | none => failure
    let (anchor, tag) ← properties
    let bare : Compose Node :=
      if anchor.isSome || tag.isSome then pure (.scalar true tag "") else failure
    let content ← match ← peek with
      | some (.scalar plain text) => do
        skip
        pure (.scalar plain tag text)
      | some .blockEntry =>
        if unindented then .sequence <$> unindentedItems fuel else bare
      | some .flowSequenceStart => do
        skip
        .sequence <$> flowItems fuel true
      | some .flowMappingStart => do
        skip
        .mapping <$> flowEntries fuel true
      | some .blockSequenceStart =>
        if block then do
          skip
          .sequence <$> blockItems fuel
        else bare
      | some .blockMappingStart =>
        if block then do
          skip
          .mapping <$> blockEntries fuel
        else bare
      | _ => bare
    record anchor content

def blockItems : Nat → Compose (List Node)
  | 0 => failure
  | fuel + 1 => do
    match ← peek with
    | some .blockEnd =>
      skip
      return []
    | some .blockEntry =>
      skip
      let item ← if ← nextIn [.blockEntry, .blockEnd] then pure Node.absent
        else node fuel true false
      return item :: (← blockItems fuel)
    | _ => failure

/-- The items of a block sequence at the column of the mapping around it. -/
def unindentedItems : Nat → Compose (List Node)
  | 0 => failure
  | fuel + 1 => do
    match ← peek with
    | some .blockEntry =>
      skip
      let item ← if ← nextIn [.blockEntry, .key, .value, .blockEnd] then pure Node.absent
        else node fuel true false
      return item :: (← unindentedItems fuel)
    | _ => return []

def blockValue : Nat → Compose Node
  | 0 => failure
  | fuel + 1 => do
    match ← peek with
    | some .value =>
      skip
      if ← nextIn [.key, .value, .blockEnd] then return Node.absent
      else node fuel true true
    | _ => return Node.absent

def blockEntries : Nat → Compose (List (Node × Node))
  | 0 => failure
  | fuel + 1 => do
    match ← peek with
    | some .blockEnd =>
      skip
      return []
    | some .key =>
      skip
      let key ← if ← nextIn [.key, .value, .blockEnd] then pure Node.absent
        else node fuel true true
      let value ← blockValue fuel
      return (key, value) :: (← blockEntries fuel)
    | some .value =>
      let value ← blockValue fuel
      return (Node.absent, value) :: (← blockEntries fuel)
    | _ => failure

/-- A mapping of one entry that stands as an item of a flow sequence, after the mark of its key. -/
def flowPair : Nat → Compose Node
  | 0 => failure
  | fuel + 1 => do
    let key ← if ← nextIn [.value, .flowEntry, .flowSequenceEnd] then do
        skip
        pure Node.absent
      else node fuel false false
    match ← peek with
    | some .value =>
      skip
      if ← nextIn [.flowEntry, .flowSequenceEnd] then return .mapping [(key, Node.absent)]
      else return .mapping [(key, ← node fuel false false)]
    | _ => return .mapping [(key, Node.absent)]

/-- The items of a flow sequence; all but the first follow a comma. -/
def flowItems : Nat → Bool → Compose (List Node)
  | 0, _ => failure
  | fuel + 1, first => do
    if !first && !(← nextIn [.flowSequenceEnd]) then
      if ← nextIn [.flowEntry] then skip else failure
    match ← peek with
    | some .flowSequenceEnd =>
      skip
      return []
    | some .key =>
      skip
      let item ← flowPair fuel
      return item :: (← flowItems fuel false)
    | _ =>
      let item ← node fuel false false
      return item :: (← flowItems fuel false)

def flowValue : Nat → Compose Node
  | 0 => failure
  | fuel + 1 => do
    match ← peek with
    | some .value =>
      skip
      if ← nextIn [.flowEntry, .flowMappingEnd] then return Node.absent
      else node fuel false false
    | _ => return Node.absent

def flowEntries : Nat → Bool → Compose (List (Node × Node))
  | 0, _ => failure
  | fuel + 1, first => do
    if !first && !(← nextIn [.flowMappingEnd]) then
      if ← nextIn [.flowEntry] then skip else failure
    match ← peek with
    | some .flowMappingEnd =>
      skip
      return []
    | some .key =>
      skip
      let key ← if ← nextIn [.value, .flowEntry, .flowMappingEnd] then pure Node.absent
        else node fuel false false
      let value ← flowValue fuel
      return (key, value) :: (← flowEntries fuel false)
    | some .value =>
      let value ← flowValue fuel
      return (Node.absent, value) :: (← flowEntries fuel false)
    | _ =>
      let key ← node fuel false false
      return (key, Node.absent) :: (← flowEntries fuel false)

end

/-- Moves past the directives and the start of a document; answers whether it has a start. -/
def documentStart : Nat → Compose Bool
  | 0 => failure
  | fuel + 1 => do
    match ← peek with
    | some .directive =>
      skip
      if ← documentStart fuel then return true else failure
    | some .documentStart =>
      skip
      return true
    | _ => return false

def document : Compose Document := do
  let count := (← get).tokens.length
  let started ← documentStart (count + 1)
  let empty ← nextIn [.directive, .documentStart, .documentEnd]
  let root ← if started && (empty || (← peek).isNone) then pure Node.absent
    else node (3 * count + 3) true false
  if (← get).tokens.all (· == .documentEnd) then return ⟨root, (← get).anchors⟩ else failure

end Compose

def Document.read? (text : String) : Option Document := do
  let tokens ← Token.scan? text
  let (document, _) ← Compose.document.run { tokens := tokens }
  return document

end TemplateAudit.Yaml
