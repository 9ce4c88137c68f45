import TemplateAudit.Json.Basic
import TemplateAudit.LineIndex.Basic

/-!
# Lines of the pretty layout

The lines that the nodes of a value have in the layout of `Json.pretty`, found by counting over the
value: a member or item starts one line below what comes before it, and a container that is not
empty ends with a line of its own.
-/

namespace TemplateAudit.LineIndex

set_option autoImplicit false

mutual

def lastLine : UInt32 → Json → UInt32
  | line, .array (item :: rest) => itemsLastLine line (item :: rest) + 1
  | line, .object (member :: rest) => membersLastLine line (member :: rest) + 1
  | line, _ => line

def itemsLastLine : UInt32 → List Json → UInt32
  | line, [] => line
  | line, item :: rest => itemsLastLine (lastLine (line + 1) item) rest

def membersLastLine : UInt32 → List (String × Json) → UInt32
  | line, [] => line
  | line, (_, value) :: rest => membersLastLine (lastLine (line + 1) value) rest

end

mutual

/-- The entries below a value that starts on `line` and has the rendered path `path`. -/
def layout (path : String) (line : UInt32) : Json → List Entry
  | .array items => layoutItems path line 0 items
  | .object members => layoutMembers path line members
  | _ => []

def layoutItems (path : String) (line : UInt32) (position : Nat) : List Json → List Entry
  | [] => []
  | item :: rest =>
    let here := Path.item path position
    (here, line + 1) :: layout here (line + 1) item ++
      layoutItems path (lastLine (line + 1) item) (position + 1) rest

def layoutMembers (path : String) (line : UInt32) : List (String × Json) → List Entry
  | [] => []
  | (key, value) :: rest =>
    let here := Path.member path key
    (here, line + 1) :: layout here (line + 1) value ++
      layoutMembers path (lastLine (line + 1) value) rest

end

/-- The index of a value as the pretty layout writes it. -/
def ofValue (value : Json) : LineIndex :=
  ofEntries (layout "" firstLine value)

end TemplateAudit.LineIndex
