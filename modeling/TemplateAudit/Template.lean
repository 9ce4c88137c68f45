import TemplateAudit.LineIndex.Layout
import TemplateAudit.LineIndex.Scan
import TemplateAudit.SourceMap

/-!
# Templates

A template is an expanded document together with what is known about where it came from: the text
it was read from, the document it was compiled from, and the source map that links the two. Lines
are read from the text when it can be scanned and from the pretty layout otherwise; with a source
map they are lines of the entrypoint file.
-/

namespace TemplateAudit

set_option autoImplicit false

structure Template where
  /-- File path or logical name. -/
  identifier : String := ""
  /-- The document as authored. -/
  authored : Option Json := none
  /-- The compiled document, on which rules are run. -/
  expanded : Json := .null
  /-- The text that the compiled document was read from. -/
  text : Option String := none
  sourceMap : Option SourceMap := none
  /-- Where resources of the compiled document are declared, in the order of the keys. -/
  resourceMappings : List (String × String) := []

namespace Template

def sortByName (entries : List (String × String)) : List (String × String) :=
  entries.mergeSort fun a b => decide (a.1 ≤ b.1)

def stringMap? {α : Type} [Tree α] (tree : α) : Option (List (String × String)) := do
  let members ← Tree.members? tree
  let entries ← members.mapM fun m => (Tree.string? m.2).map fun s => (m.1, s)
  return sortByName entries

def fieldNames : List (List String) :=
  [["templateIdentifier"], ["originalTemplate"], ["expandedTemplate"], ["expandedText"],
    ["sourceMap"], ["resourceMappings"]]

def ofTree? {α : Type} [Tree α] (tree : α) : Option Template :=
  match Tree.fields? fieldNames tree with
  | some [identifier, authored, expanded, text, sourceMap, mappings] => do
    return {
      identifier := ← Tree.defaulted? "" Tree.string? identifier
      authored := ← Tree.optionalField? Tree.json? authored
      expanded := ← Tree.defaulted? .null Tree.json? expanded
      text := ← Tree.optionalField? Tree.string? text
      sourceMap := ← Tree.optionalField? SourceMap.ofTree? sourceMap
      resourceMappings := ← Tree.defaulted? [] stringMap? mappings }
  | _ => none

def toJson (t : Template) : Json :=
  .object ([("templateIdentifier", .string t.identifier),
      ("originalTemplate", .ofOption t.authored),
      ("expandedTemplate", t.expanded)] ++
    (match t.text with
      | some text => [("expandedText", .string text)]
      | none => []) ++
    [("sourceMap", .ofOption (t.sourceMap.map SourceMap.toJson)),
      ("resourceMappings", .object (t.resourceMappings.map fun m => (m.1, .string m.2)))])

/-- Whether a document has nothing that a rule could be run on. -/
def isEmptyDocument : Json → Bool
  | .null => true
  | .object members => members.isEmpty
  | .array items => items.isEmpty
  | .string s => s.isEmpty
  | _ => false

def validate (t : Template) : Except Error Unit :=
  if Text.isBlankText t.identifier then .error .identifierMissing
  else if isEmptyDocument t.expanded then .error (.templateMissing t.identifier)
  else .ok ()

/-- A validated template of an expanded document. -/
def make (identifier : String) (expanded : Json) : Except Error Template :=
  let t : Template := { identifier := identifier, expanded := expanded }
  match t.validate with
  | .ok () => .ok t
  | .error e => .error e

def lineIndex (t : Template) : LineIndex :=
  match t.text.bind LineIndex.ofText? with
  | some index => index
  | none => LineIndex.ofValue t.expanded

/-- A line counted from one as a line counted from zero; the line zero stays where it is. -/
def zeroBased (line : UInt32) : UInt32 :=
  if line = 0 then 0 else line - 1

/-- The line that a line of the expanded document was compiled from; the first line when there is
no mapping or its line has no successor in 32 bits. -/
def sourceLine (mappings : List LineMapping) (line : UInt32) : UInt32 :=
  match LineMapping.lookup? mappings (zeroBased line) with
  | some source => if source.toNat + 1 < UInt32.size then source + 1 else firstLine
  | none => firstLine

def entrypointMappings (t : Template) : Except Error (List LineMapping) :=
  match t.sourceMap with
  | some m => m.entrypointMappings
  | none => .error (.sourceMapMissing t.identifier)

/-- Lines of the entrypoint file of the source map, which must be there. -/
def mappedLines (t : Template) : Except Error (String → UInt32) :=
  match t.entrypointMappings with
  | .ok mappings =>
    let index := t.lineIndex
    .ok fun path => sourceLine mappings (index.resolve path)
  | .error e => .error e

def lines (t : Template) : Except Error (String → UInt32) :=
  if t.sourceMap.isSome then t.mappedLines
  else
    let index := t.lineIndex
    .ok index.resolve

end Template

end TemplateAudit
