import Std.Data.HashMap
import TemplateAudit.Path

/-!
# Line numbers of paths

A line index assigns to the canonical path of every node of a document the line on which the node
starts. It is built from entries in document order; of two entries for one path the later one
counts. A path that is not in the index stands for its nearest ancestor that is. Lines are kept in
32 bits and start again at zero behind the last one.
-/

namespace TemplateAudit

set_option autoImplicit false

/-- The line of the root, and of everything that cannot be located. -/
def firstLine : UInt32 := 1

structure LineIndex where
  lines : Std.HashMap String UInt32

namespace LineIndex

/-- A canonical path and its line. -/
abbrev Entry := String × UInt32

/-- The index of the root and the given entries, the later ones overriding the earlier. -/
def ofEntries (entries : List Entry) : LineIndex :=
  ⟨entries.foldl (fun lines e => lines.insert e.1 e.2)
    (Std.HashMap.emptyWithCapacity.insert "" firstLine)⟩

/-- Number of paths in the index, the root included. -/
def size (index : LineIndex) : Nat :=
  index.lines.size

def isEmpty (index : LineIndex) : Bool :=
  index.lines.isEmpty

def line? (index : LineIndex) (segments : List Path.Segment) : Option UInt32 :=
  index.lines[Path.render segments]?

def exactLine? (index : LineIndex) (path : String) : Option UInt32 :=
  match Path.parse? path with
  | some segments => index.line? segments
  | none => none

/-- The line of the longest initial part in the index of a list of steps given in reverse. -/
def nearestLine (index : LineIndex) : List Path.Segment → UInt32
  | [] => (index.line? []).getD firstLine
  | last :: before =>
    match index.line? (last :: before).reverse with
    | some line => line
    | none => nearestLine index before

/-- The line of a path or of its nearest ancestor in the index; the first line for a path that
cannot be read. -/
def resolve (index : LineIndex) (path : String) : UInt32 :=
  match Path.parse? path with
  | some segments => index.nearestLine segments.reverse
  | none => firstLine

end LineIndex

end TemplateAudit
