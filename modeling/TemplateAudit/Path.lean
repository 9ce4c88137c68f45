import TemplateAudit.Text.Blank
import TemplateAudit.Text.Case

/-!
# Structural paths

A path such as `resources[0].properties.name` is a list of steps into a JSON value, keys in lower
case. `Path.parse?` reads the many spellings of a path, `Path.render` writes the canonical one, and
`Path.member` and `Path.item` extend a rendered path by one step.
-/

namespace TemplateAudit

set_option autoImplicit false

namespace Path

/-- One step of a path: a member of an object or a position in an array. -/
inductive Segment where
  | key (name : String)
  | index (position : Nat)
deriving DecidableEq

def splitPoints : List Char → List (List Char)
  | [] => [[]]
  | c :: rest =>
    if c = '.' then [] :: splitPoints rest
    else match splitPoints rest with
      | part :: parts => (c :: part) :: parts
      | [] => [[c]]

/-- A decimal number below `2 ^ 64`, with an optional plus sign and any leading zeros. -/
def position? (cs : List Char) : Option Nat :=
  let digits := match cs with
    | '+' :: rest => rest
    | other => other
  if digits.isEmpty || !(digits.all fun c => 48 ≤ c.toNat && c.toNat ≤ 57) then none
  else
    let value := digits.foldl (fun n c => n * 10 + (c.toNat - 48)) 0
    if value < UInt64.size then some value else none

/-- The bracketed positions that make up the rest of a part. -/
def positions? : Nat → List Char → Option (List Segment)
  | _, [] => some []
  | 0, _ => none
  | fuel + 1, '[' :: rest =>
    let inside := rest.takeWhile (· ≠ ']')
    match rest.dropWhile (· ≠ ']') with
    | [] => none
    | _ :: after =>
      match position? (Text.trimChars inside), positions? fuel after with
      | some n, some more => some (.index n :: more)
      | _, _ => none
  | _ + 1, _ => none

/-- The steps of one part between points: a key, if there is one, and then positions. -/
def partSegments? (part : List Char) : Option (List Segment) :=
  let key := part.takeWhile (· ≠ '[')
  let brackets := part.dropWhile (· ≠ '[')
  match positions? brackets.length brackets with
  | none => none
  | some positions =>
    if key.isEmpty then some positions
    else some (.key (Text.lowercase (String.ofList key)) :: positions)

/-- A path without its mark of the root, `$` alone or `$.` in front. -/
def withoutRoot (cs : List Char) : List Char :=
  match cs with
  | ['$'] => []
  | '$' :: '.' :: rest => rest
  | other => other

def partsSegments? : List (List Char) → Option (List Segment)
  | [] => some []
  | part :: parts =>
    if part.isEmpty then partsSegments? parts
    else match partSegments? part, partsSegments? parts with
      | some here, some more => some (here ++ more)
      | _, _ => none

/-- The steps of a path; `none` when a bracket does not hold a position. -/
def parse? (path : String) : Option (List Segment) :=
  partsSegments? (splitPoints (withoutRoot (Text.trimChars path.toList)))

def item (path : String) (position : Nat) : String :=
  path ++ "[" ++ toString position ++ "]"

def join (path text : String) : String :=
  if path.isEmpty then text else path ++ "." ++ text

def member (path key : String) : String :=
  join path (Text.lowercase key)

/-- Extends a rendered path by one step, whose key is taken as it stands. -/
def step (path : String) : Segment → String
  | .key name => join path name
  | .index position => Path.item path position

/-- The canonical spelling of a path. -/
def render (segments : List Segment) : String :=
  segments.foldl step ""

end Path

end TemplateAudit
