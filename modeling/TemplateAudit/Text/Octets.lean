import TemplateAudit.Text.RangeSet

/-!
# Characters as octets

The octets of a character in UTF-8, and a set of characters as a list of sequences of octet ranges:
a text of octets is a member of the set exactly when each octet lies in its range of one of the
sequences.
-/

namespace TemplateAudit.Text

set_option autoImplicit false

def octets (code : Nat) : List Nat :=
  if code < 0x80 then [code]
  else if code < 0x800 then [0xC0 + code / 64, 0x80 + code % 64]
  else if code < 0x10000 then [0xE0 + code / 4096, 0x80 + code / 64 % 64, 0x80 + code % 64]
  else [0xF0 + code / 262144, 0x80 + code / 4096 % 64, 0x80 + code / 64 % 64, 0x80 + code % 64]

def textOctets (chars : List Char) : List Nat :=
  chars.flatMap fun c => octets c.toNat

/-- The code points of one number of octets, less the surrogates. -/
def equalLengths : List (Nat × Nat) :=
  [(0, 0x7F), (0x80, 0x7FF), (0x800, 0xD7FF), (0xE000, 0xFFFF), (0x10000, RangeSet.greatest)]

/-- Cuts a range where a block begins or ends inside it, so that in each piece the last octets that
vary run over all their values. The sizes of blocks are given in ascending order. -/
def pieces : List Nat → Nat → Nat → List (Nat × Nat)
  | [], first, last => [(first, last)]
  | size :: larger, first, last =>
    if first / size = last / size then [(first, last)]
    else
      let start := (first + size - 1) / size * size
      let stop := (last + 1) / size * size
      (if first < start then [(first, start - 1)] else []) ++
        (if start < stop then pieces larger start (stop - 1) else []) ++
        (if stop ≤ last then [(stop, last)] else [])

def rangeSequences (first last : Nat) : List (List (Nat × Nat)) :=
  if last < 0x80 then [[(first, last)]]
  else (pieces [64, 4096, 262144] first last).map fun p => (octets p.1).zip (octets p.2)

def RangeSet.sequences (s : RangeSet) : List (List (Nat × Nat)) :=
  s.ranges.flatMap fun r => equalLengths.flatMap fun bounds =>
    let first := max r.1 bounds.1
    let last := min r.2 bounds.2
    if first ≤ last then rangeSequences first last else []

end TemplateAudit.Text
