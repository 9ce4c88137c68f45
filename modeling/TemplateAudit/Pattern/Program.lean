import Std.Data.HashMap
import TemplateAudit.Pattern.Expr
import TemplateAudit.Text.Octets

/-!
# The size of a program

A pattern is run as two automata over octets, one for each direction, whose states are numbered in
the order in which they are laid down. A state takes 32 bytes, an edge on an octet range 8 and an
edge without octets 4. Only patterns whose two automata stay within a limit are accepted; to know
their sizes, the states are laid down here without being kept.
-/

namespace TemplateAudit.Pattern

set_option autoImplicit false

open Text

/-- What has been laid down of an automaton: its states, and the bytes that their edges take. -/
structure Size where
  states : Nat
  edges : Nat

namespace Size

def limit : Nat := 10 * 1048576

def bytes (s : Size) : Nat :=
  32 * s.states + s.edges

def add (states edges : Nat) (s : Size) : Option Size :=
  let next : Size := ⟨s.states + states, s.edges + edges⟩
  if next.bytes ≤ limit then some next else none

def times (step : Size → Option Size) : Nat → Size → Option Size
  | 0, s => some s
  | n + 1, s =>
    match step s with
    | some next => times step n next
    | none => none

end Size

inductive Direction where
  | forward
  | backward
deriving DecidableEq

structure Edge where
  first : Nat
  last : Nat
  target : Nat
deriving DecidableEq

def digest (values : List Nat) : UInt64 :=
  values.foldl (fun h v => (h ^^^ UInt64.ofNat v) * 1099511628211) 14695981039346656037

/-- States that can be shared. There is a number of slots, and a slot keeps the last state whose
edges have their digest there. -/
structure Shared where
  slots : Nat
  kept : Std.HashMap Nat (List Edge × Nat) := {}

def Edge.numbers (e : Edge) : List Nat :=
  [e.first, e.last, e.target]

def Shared.slot (shared : Shared) (numbers : List Nat) : Nat :=
  (digest numbers).toNat % shared.slots

def Shared.find? (shared : Shared) (slot : Nat) (edges : List Edge) : Option Nat :=
  match shared.kept[slot]? with
  | some (kept, state) => if kept = edges then some state else none
  | none => none

structure SetLayout where
  size : Size
  shared : Shared

/-- The state with given edges: a shared one, or a new one. -/
def SetLayout.state (numbers : List Nat) (bytes : Nat) (edges : List Edge) (l : SetLayout) :
    Option (Nat × SetLayout) :=
  let slot := l.shared.slot numbers
  match l.shared.find? slot edges with
  | some state => some (state, l)
  | none =>
    (l.size.add 1 bytes).map fun size =>
      (l.size.states, ⟨size, { l.shared with kept := l.shared.kept.insert slot (edges, l.size.states) }⟩)

/-- A state whose last edge has no target yet. -/
structure OpenState where
  edges : List Edge := []
  pending : Option (Nat × Nat) := none

def OpenState.settled (s : OpenState) (target : Nat) : List Edge :=
  match s.pending with
  | some (first, last) => s.edges ++ [⟨first, last, target⟩]
  | none => s.edges

/-- Lays down a chain of open states, the last one first, and gives the number of the first. -/
def layChain (target : Nat) : List OpenState → SetLayout → Option (Nat × SetLayout)
  | [], l => some (target, l)
  | s :: below, l =>
    match layChain target below l with
    | some (next, after) =>
      let edges := s.settled next
      after.state (edges.flatMap Edge.numbers) (8 * edges.length) edges
    | none => none

/-- Takes up one more sequence: the states that it does not share with the one before are laid
down. -/
def laySequence (target : Nat) : List (Nat × Nat) → List OpenState → SetLayout →
    Option (List OpenState × SetLayout)
  | r :: rest, s :: below, l =>
    if s.pending = some r then
      (laySequence target rest below l).map fun (states, after) => (s :: states, after)
    else
      (layChain target below l).map fun (next, after) =>
        (⟨s.settled next, some r⟩ :: rest.map fun q => ⟨[], some q⟩, after)
  | _, states, l => some (states, l)

def laySequences (target : Nat) : List (List (Nat × Nat)) → List OpenState → SetLayout →
    Option (List OpenState × SetLayout)
  | [], states, l => some (states, l)
  | sequence :: rest, states, l =>
    match laySequence target sequence states l with
    | some (next, after) => laySequences target rest next after
    | none => none

/-- A set of characters forward: equal ends of sequences share their states. -/
def layForward (members : RangeSet) (s : Size) : Option Size := do
  let target := s.states
  let begun ← s.add 1 0
  let (states, l) ← laySequences target members.sequences [{}] ⟨begun, ⟨10000, {}⟩⟩
  let (_, done) ← layChain target states l
  return done.size

/-- One sequence backward, from the state where all of them end. -/
def layReversed : List (Nat × Nat) → Nat → SetLayout → Option SetLayout
  | [], _, l => some l
  | (first, last) :: rest, from', l =>
    match l.state [from', first, last] 0 [⟨first, last, from'⟩] with
    | some (next, after) => layReversed rest next after
    | none => none

def layAllReversed (target : Nat) : List (List (Nat × Nat)) → SetLayout → Option SetLayout
  | [], l => some l
  | sequence :: rest, l =>
    match (layReversed sequence target l).bind fun after => (after.size.add 0 4).map fun size =>
        { after with size := size } with
    | some next => layAllReversed target rest next
    | none => none

/-- A set of characters backward: sequences share the states of their first octets, and one state
leads to all of them. -/
def layBackward (members : RangeSet) (s : Size) : Option Size := do
  let begun ← s.add 2 0
  let done ← layAllReversed (s.states + 1) members.sequences ⟨begun, ⟨1000, {}⟩⟩
  return done.size

/-- A set of characters; one of ASCII takes a single state with all its edges. -/
def laySet (d : Direction) (members : RangeSet) (s : Size) : Option Size :=
  if members.isAscii then s.add 2 (8 * members.ranges.length)
  else match d with
    | .forward => layForward members s
    | .backward => layBackward members s

/-- Texts cut where one ends, as groups of those that go on; texts that end before any goes on count
once. -/
def cutAtEnds (tails : List (List Nat)) : List (List (List Nat)) :=
  let going := tails.dropWhile List.isEmpty
  let start := if going.length < tails.length then [] :: going else going
  start.splitOnP List.isEmpty

def byFirst (texts : List (List Nat)) : List (List (List Nat)) :=
  (texts.filterMap List.head?).eraseDups.map fun first =>
    texts.filterMap fun
      | octet :: rest => if octet = first then some rest else none
      | [] => none

/-- A choice between texts, which share their beginnings: the texts are given by what is left of
them, and the fuel is more than the length of the longest. -/
def layTails : Nat → List (List Nat) → Size → Option Size
  | 0, _, s => some s
  | fuel + 1, tails, s =>
    let groups := cutAtEnds tails
    let starts := groups.map byFirst
    let inner := starts.flatten.filter fun rest => rest.any fun tail => !tail.isEmpty
    let filled := starts.filter fun start => !start.isEmpty
    let wide := filled.filter fun start => 1 < start.length
    match inner.foldlM (fun size rest => layTails fuel rest size) s with
    | some after =>
      after.add (filled.length + 1)
        (8 * (wide.map List.length).sum + 4 * (filled.length + groups.length - 1))
    | none => none

def Expr.texts? : Expr → Option (List (List Char))
  | .text chars => some [chars]
  | .alt (.text chars) rest => rest.texts?.map (chars :: ·)
  | _ => none

def layTexts (d : Direction) (texts : List (List Char)) (s : Size) : Option Size :=
  let octets := texts.map fun text => match d with
    | .forward => textOctets text
    | .backward => (textOctets text).reverse
  (s.add 1 0).bind (layTails ((octets.map List.length).foldl max 0 + 1) octets)

/-- The least number of characters that an expression takes, if it can match at all. -/
def Expr.minLength : Expr → Option Nat
  | .empty | .look _ => some 0
  | .text chars => some chars.length
  | .set _ members => if members.ranges.isEmpty then none else some 1
  | .group _ body => body.minLength
  | .rep least _ _ body => body.minLength.map (least * ·)
  | .cat first rest => do return (← first.minLength) + (← rest.minLength)
  | .alt first rest => do return min (← first.minLength) (← rest.minLength)

/-- Which branch of a choice is laid down: the only one or the first, the second, or a further
one. -/
inductive Branch where
  | first
  | second
  | further

def Branch.close : Branch → Size → Option Size
  | .first, s => some s
  | .second, s => s.add 2 8
  | .further, s => s.add 0 4

def layOptional (body : Size → Option Size) (s : Size) : Option Size :=
  ((s.add 1 0).bind body).bind (Size.add 0 8)

/-- A repetition whose body is laid down by `body` and takes at least `shortest` characters. -/
def layRepetition (least : Nat) (most : Option Nat) (shortest : Option Nat)
    (body : Size → Option Size) (s : Size) : Option Size :=
  match least, most with
  | 0, some 1 => (layOptional body s).bind (Size.add 1 0)
  | 0, none =>
    if 0 < shortest.getD 0 then layOptional body s else (body s).bind (Size.add 3 16)
  | n, none => (Size.times body n s).bind (Size.add 1 8)
  | m, some n =>
    if m = n then Size.times body n s
    else
      ((if m = 0 then s.add 1 0 else Size.times body m s).bind (Size.add 1 0)).bind
        (Size.times (layOptional body) (n - m))

/-- Lays down an expression. Groups are remembered in the forward direction alone. -/
def Expr.lay (d : Direction) : Expr → Branch → Size → Option Size
  | .empty, b, s => (s.add 1 0).bind b.close
  | .look _, b, s => (s.add 1 0).bind b.close
  | .text chars, b, s => (s.add (textOctets chars).length 0).bind b.close
  | .set _ members, b, s => (laySet d members s).bind b.close
  | .group _ body, b, s =>
    let around := if d = .forward then 1 else 0
    (((s.add around 0).bind (body.lay d .first)).bind (Size.add around 0)).bind b.close
  | .rep least most _ body, b, s =>
    (layRepetition least most body.minLength (body.lay d .first) s).bind b.close
  | .cat first rest, b, s =>
    (match d with
      | .forward => (first.lay d .first s).bind (rest.lay d .first)
      | .backward => (rest.lay d .first s).bind (first.lay d .first)).bind b.close
  | .alt first rest, b, s =>
    match b with
    | .first =>
      match (Expr.alt first rest).texts? with
      | some texts => layTexts d texts s
      | none => (first.lay d .first s).bind (rest.lay d .second)
    | .second => (first.lay d .second s).bind (rest.lay d .further)
    | .further => (first.lay d .further s).bind (rest.lay d .further)

def Expr.startsText : Expr → Bool
  | .look assertion => assertion = .start
  | .group _ body => body.startsText
  | .rep least _ _ body => 0 < least && body.startsText
  | .cat first rest => first.startsText || (first.onlyEmpty && rest.startsText)
  | .alt first rest => first.startsText && rest.startsText
  | _ => false

def Expr.stopsText : Expr → Bool
  | .look assertion => assertion = .stop
  | .group _ body => body.stopsText
  | .rep least _ _ body => 0 < least && body.stopsText
  | .cat first rest => rest.stopsText || (rest.onlyEmpty && first.stopsText)
  | .alt first rest => first.stopsText && rest.stopsText
  | _ => false

/-- The size of the automaton for one direction: unless it is tied to an end of the text, it first
passes any octets, and forward the whole match is remembered like a group. -/
def Expr.size? (d : Direction) (e : Expr) : Option Size := do
  let tied := if d = .forward then e.startsText else e.stopsText
  let around := if d = .forward then 1 else 0
  let begun ← if tied then Size.add 1 0 ⟨0, 0⟩ else Size.add 3 16 ⟨0, 0⟩
  let opened ← begun.add around 0
  let body ← e.lay d .first opened
  body.add (around + 1) 0

/-- How many texts a choice may have before it is looked up without automata. -/
def fewTexts : Nat := 3000

def Expr.fits (e : Expr) : Bool :=
  (match e.texts? with
    | some texts => decide (fewTexts ≤ texts.length)
    | none => false) ||
  ((e.size? .forward).isSome && (e.size? .backward).isSome)

end TemplateAudit.Pattern
