import TemplateAudit.Error
import TemplateAudit.Tree

/-!
# Source maps

A source map links lines of an expanded template to lines of the files it was compiled from, both
counted from zero. Only the entrypoint file is consulted, and of several mappings for one line the
first one counts.
-/

namespace TemplateAudit

set_option autoImplicit false

/-- A line of the expanded template and the line it was compiled from, both counted from zero. -/
structure LineMapping where
  target : UInt32
  source : UInt32
deriving DecidableEq

/-- The mappings of one source file in the order in which the compiler gave them. -/
structure FileMap where
  path : String
  mappings : List LineMapping
deriving DecidableEq

structure SourceMap where
  entrypoint : String
  files : List FileMap
deriving DecidableEq

namespace LineMapping

def fieldNames : List (List String) :=
  [["targetLine", "TargetLine"], ["sourceLine", "SourceLine"]]

def ofTree? {α : Type} [Tree α] (tree : α) : Option LineMapping :=
  match Tree.fields? fieldNames tree with
  | some [target, source] => do
    return ⟨← Tree.required? Tree.word32? target, ← Tree.required? Tree.word32? source⟩
  | _ => none

def toJson (m : LineMapping) : Json :=
  .object [("targetLine", .ofNat m.target.toNat), ("sourceLine", .ofNat m.source.toNat)]

end LineMapping

namespace FileMap

def fieldNames : List (List String) :=
  [["filePath", "FilePath"], ["mappings", "sourceMap", "SourceMap", "Mappings"]]

def ofTree? {α : Type} [Tree α] (tree : α) : Option FileMap :=
  match Tree.fields? fieldNames tree with
  | some [path, mappings] => do
    return ⟨← Tree.required? Tree.string? path,
      ← Tree.defaulted? [] (Tree.list? LineMapping.ofTree?) mappings⟩
  | _ => none

def toJson (f : FileMap) : Json :=
  .object [("filePath", .string f.path), ("mappings", .array (f.mappings.map LineMapping.toJson))]

end FileMap

namespace SourceMap

def fieldNames : List (List String) :=
  [["entrypoint", "Entrypoint"], ["entries", "Entries"]]

def ofTree? {α : Type} [Tree α] (tree : α) : Option SourceMap :=
  match Tree.fields? fieldNames tree with
  | some [entrypoint, entries] => do
    return ⟨← Tree.required? Tree.string? entrypoint,
      ← Tree.defaulted? [] (Tree.list? FileMap.ofTree?) entries⟩
  | _ => none

def toJson (m : SourceMap) : Json :=
  .object [("entrypoint", .string m.entrypoint), ("entries", .array (m.files.map FileMap.toJson))]

def parse (text : String) : Except Error SourceMap :=
  match (Json.Written.read? text.toList).bind ofTree? with
  | some m => .ok m
  | none => .error .sourceMapUnreadable

def file? (m : SourceMap) (path : String) : Option FileMap :=
  m.files.find? (·.path == path)

def entrypointMappings (m : SourceMap) : Except Error (List LineMapping) :=
  match m.file? m.entrypoint with
  | some file => .ok file.mappings
  | none => .error (.entrypointMissing m.entrypoint)

end SourceMap

namespace LineMapping

/-- The source line of the first mapping for a line, both counted from zero. -/
def lookup? (mappings : List LineMapping) (target : UInt32) : Option UInt32 :=
  (mappings.find? fun m => m.target == target).map fun m => m.source

end LineMapping

end TemplateAudit
