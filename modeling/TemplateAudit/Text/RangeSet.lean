/-!
# Sets of code points

A set of characters is a list of inclusive ranges in ascending order, no two of which touch. Long
tables are written as the alternating lengths of gaps and runs, counted from code point zero. The
operations keep this form, and none of them ever yields a surrogate, which is no character.
-/

namespace TemplateAudit.Text

set_option autoImplicit false

/-- Inclusive ranges of code points in ascending order. -/
structure RangeSet where
  ranges : List (Nat × Nat)

namespace RangeSet

/-- Two sets that are one object need not be compared range by range. -/
instance : DecidableEq RangeSet := fun a b =>
  withPtrEqDecEq a b fun _ =>
    if h : a.ranges = b.ranges then
      isTrue (by cases a; cases b; cases h; rfl)
    else isFalse fun equal => h (congrArg ranges equal)

def greatest : Nat := 0x10FFFF

def empty : RangeSet := ⟨[]⟩

def range (first last : Nat) : RangeSet := ⟨[(first, last)]⟩

def single (code : Nat) : RangeSet := range code code

def holds (s : RangeSet) (code : Nat) : Bool :=
  s.ranges.any fun r => decide (r.1 ≤ code) && decide (code ≤ r.2)

def contains (s : RangeSet) (c : Char) : Bool :=
  s.holds c.toNat

/-- Joins a range with those after it that overlap or touch it, and these among each other. The
ranges have to be in the order of their first code points. -/
def absorb : Nat × Nat → List (Nat × Nat) → List (Nat × Nat)
  | current, [] => [current]
  | current, r :: rest =>
    if r.1 ≤ current.2 + 1 then absorb (current.1, max current.2 r.2) rest
    else current :: absorb r rest

def coalesce : List (Nat × Nat) → List (Nat × Nat)
  | [] => []
  | r :: rest => absorb r rest

def startsFirst (a b : Nat × Nat) : Bool :=
  decide (a.1 ≤ b.1)

def union (a b : RangeSet) : RangeSet :=
  ⟨coalesce (a.ranges.merge b.ranges startsFirst)⟩

instance : Union RangeSet := ⟨union⟩

def ofRanges (ranges : List (Nat × Nat)) : RangeSet :=
  ⟨coalesce (ranges.mergeSort startsFirst)⟩

def ofCodes (codes : List Nat) : RangeSet :=
  ofRanges (codes.map fun code => (code, code))

def surrogates : RangeSet := range 0xD800 0xDFFF

/-- What lies between ranges, from a code point on. -/
def gaps : Nat → List (Nat × Nat) → List (Nat × Nat)
  | start, [] => if start ≤ greatest then [(start, greatest)] else []
  | start, r :: rest =>
    if start < r.1 then (start, r.1 - 1) :: gaps (r.2 + 1) rest else gaps (max start (r.2 + 1)) rest

def compl (s : RangeSet) : RangeSet :=
  ⟨gaps 0 (s ∪ surrogates).ranges⟩

def inter (a b : RangeSet) : RangeSet :=
  (a.compl ∪ b.compl).compl

instance : Inter RangeSet := ⟨inter⟩

def diff (a b : RangeSet) : RangeSet :=
  (a.compl ∪ b).compl

instance : SDiff RangeSet := ⟨diff⟩

def symmDiff (a b : RangeSet) : RangeSet :=
  (a ∪ b) \ (a ∩ b)

def unions (sets : List RangeSet) : RangeSet :=
  sets.foldl union empty

def all : RangeSet := empty.compl

def isAscii (s : RangeSet) : Bool :=
  s.ranges.all fun r => decide (r.2 < 128)

/-- The decimal numbers in a text that has anything else between them; `pending` is the number being
read. -/
def numbers : List Char → Option Nat → List Nat
  | [], pending => pending.toList
  | c :: rest, pending =>
    if c.isDigit then numbers rest (some (pending.getD 0 * 10 + (c.toNat - 48)))
    else pending.toList ++ numbers rest none

/-- Ranges from gap and run lengths, the first gap starting at `start`. -/
def fromRuns : Nat → List Nat → List (Nat × Nat)
  | start, gap :: run :: rest => (start + gap, start + gap + run - 1) :: fromRuns (start + gap + run) rest
  | _, _ => []

def ofRuns (text : String) : RangeSet :=
  ⟨fromRuns 0 (numbers text.toList none)⟩

end RangeSet

structure LabelledRange where
  label : String
  first : Nat
  last : Nat

/-- Ranges from labels and run lengths, such as `Lu26`; `label` is read in reverse, and the run that
is being read starts at `first`. -/
def labelledRuns : List Char → List Char → Nat → Nat → List LabelledRange
  | [], label, count, first =>
    if count = 0 then [] else [⟨String.ofList label.reverse, first, first + count - 1⟩]
  | c :: rest, label, count, first =>
    if c.isDigit then labelledRuns rest label (count * 10 + (c.toNat - 48)) first
    else if c.isAlpha then
      if count = 0 then labelledRuns rest (c :: label) 0 first
      else ⟨String.ofList label.reverse, first, first + count - 1⟩ ::
        labelledRuns rest [c] 0 (first + count)
    else labelledRuns rest label count first

def labelled (text : String) : List LabelledRange :=
  labelledRuns text.toList [] 0 0

def withLabels (table : List LabelledRange) (labels : List String) : RangeSet :=
  ⟨RangeSet.coalesce ((table.filter fun r => labels.contains r.label).map fun r => (r.first, r.last))⟩

end TemplateAudit.Text
