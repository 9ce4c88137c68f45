import TemplateAudit.LineIndex.Basic
import TemplateAudit.Tree

/-!
# Findings

A finding is a place that a rule looked at, with the findings nested in it; places are paths when
a rule reports them and lines once they have been located. A finding matters when a failure lies
anywhere in it, and the failures of a finding are listed in pre-order.
-/

namespace TemplateAudit

set_option autoImplicit false

/-- A place that satisfied a rule or not, with the places nested in it. -/
inductive Finding (α : Type) where
  | node (passed : Bool) (place : α) (children : List (Finding α))

namespace Finding

variable {α β : Type}

def passed : Finding α → Bool
  | .node passed _ _ => passed

def place : Finding α → α
  | .node _ place _ => place

def children : Finding α → List (Finding α)
  | .node _ _ children => children

mutual

/-- Whether the place itself or one nested in it failed. -/
def hasFailure : Finding α → Bool
  | .node passed _ children => !passed || anyFailure children

def anyFailure : List (Finding α) → Bool
  | [] => false
  | child :: rest => hasFailure child || anyFailure rest

end

mutual

def firstFailure? : Finding α → Option α
  | .node passed place children => if passed then firstFailureIn? children else some place

def firstFailureIn? : List (Finding α) → Option α
  | [] => none
  | child :: rest =>
    match firstFailure? child with
    | some place => some place
    | none => firstFailureIn? rest

end

mutual

/-- The places that failed, in pre-order. -/
def failures : Finding α → List α
  | .node passed place children => (if passed then [] else [place]) ++ failuresIn children

def failuresIn : List (Finding α) → List α
  | [] => []
  | child :: rest => failures child ++ failuresIn rest

end

mutual

def map (f : α → β) : Finding α → Finding β
  | .node passed place children => .node passed (f place) (mapList f children)

def mapList (f : α → β) : List (Finding α) → List (Finding β)
  | [] => []
  | child :: rest => map f child :: mapList f rest

end

/-- How the places of a finding are read and written, and whether an empty list of nested ones is
written at all. -/
structure Format (α : Type) where
  placeName : String
  read? : Json → Option α
  write : α → Json
  writeEmpty : Bool

mutual

def toJson (format : Format α) : Finding α → Json
  | .node passed place children =>
    .object ([("passed", .bool passed), (format.placeName, format.write place)] ++
      if children.isEmpty && !format.writeEmpty then []
      else [("children", .array (toJsonList format children))])

def toJsonList (format : Format α) : List (Finding α) → List Json
  | [] => []
  | child :: rest => toJson format child :: toJsonList format rest

end

/-- Reads a finding in which places nest less than `fuel` deep. -/
def read? (format : Format α) : Nat → Json → Option (Finding α)
  | 0, _ => none
  | fuel + 1, value =>
    match Tree.fields? [["passed"], [format.placeName], ["children"]] value with
    | some [passed, place, children] => do
      return .node (← Tree.required? Tree.bool? passed) (← Tree.required? format.read? place)
        (← Tree.defaulted? [] (Tree.list? (read? format fuel)) children)
    | _ => none

/-- Reads a finding; no finding nests deeper than the value it is read from. -/
def ofJson? (format : Format α) (value : Json) : Option (Finding α) :=
  read? format (value.depth + 1) value

def pathFormat : Format String :=
  ⟨"path", Json.string?, .string, true⟩

def lineFormat : Format UInt32 :=
  ⟨"line_number", Tree.word32?, fun line => .ofNat line.toNat, false⟩

end Finding

end TemplateAudit
