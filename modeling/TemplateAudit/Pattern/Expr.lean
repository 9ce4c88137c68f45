import TemplateAudit.Pattern.Look

/-!
# Regular expressions

Expressions are built by `ofSet`, `sequence`, `choice` and `repeated`, which bring them into one
form: neighbouring texts are joined, a choice between single characters is a set, what all branches
of a choice begin with stands before it, and a repetition of nothing is made at most once.

Matching follows the text once and keeps the set of expressions that the rest may still match:
`derivatives` takes one character off an expression, `matchesEmpty` says whether nothing more is
needed.
-/

namespace TemplateAudit.Pattern

set_option autoImplicit false

open Text

/-- A regular expression. Sequences and choices lean to the right. -/
inductive Expr where
  | empty
  | text (chars : List Char)
  /-- One character of a set, which was written with Unicode or without. -/
  | set (unicode : Bool) (members : RangeSet)
  | look (assertion : Look)
  /-- A part that is remembered under an index. -/
  | group (index : Nat) (body : Expr)
  /-- A repetition that takes as many rounds as it can, or as few. -/
  | rep (least : Nat) (most : Option Nat) (greedy : Bool) (body : Expr)
  | cat (first rest : Expr)
  | alt (first rest : Expr)
deriving DecidableEq

namespace Expr

/-- Matches nothing, not even the empty text. -/
def never : Expr := .set false .empty

/-- One character of a set; a set of one character is a text. -/
def ofSet (unicode : Bool) (members : RangeSet) : Expr :=
  match members.ranges with
  | [] => never
  | [(first, last)] => if first = last then .text [Char.ofNat first] else .set unicode members
  | _ => .set unicode members

def parts : Expr → List Expr
  | .empty => []
  | .cat first rest => first.parts ++ rest.parts
  | e => [e]

def joinTexts : List Expr → List Expr
  | [] => []
  | .text a :: rest =>
    match joinTexts rest with
    | .text b :: more => .text (a ++ b) :: more
    | other => .text a :: other
  | e :: rest => e :: joinTexts rest

/-- Parts that need no further joining, one after another. -/
def ofParts : List Expr → Expr
  | [] => .empty
  | [e] => e
  | e :: rest => .cat e (ofParts rest)

def sequence (es : List Expr) : Expr :=
  ofParts (joinTexts (es.flatMap parts))

def branches : Expr → List Expr
  | .alt first rest => first.branches ++ rest.branches
  | e => [e]

def ofBranches : List Expr → Expr
  | [] => never
  | [e] => e
  | e :: rest => .alt e (ofBranches rest)

def char? : Expr → Option Nat
  | .text [c] => some c.toNat
  | _ => none

def members? : Expr → Option RangeSet
  | .set _ members => some members
  | _ => none

/-- A choice between characters or between sets as one set. -/
def asSet? (es : List Expr) : Option Expr :=
  ((es.mapM char?).map fun codes => ofSet true (.ofCodes codes)).or
    ((es.mapM members?).map fun sets => ofSet true (.unions sets))

/-- A choice without regard to what its branches begin with. -/
def plainChoice (es : List Expr) : Expr :=
  let all := es.flatMap branches
  if all.length ≤ 1 then ofBranches all else (asSet? all).getD (ofBranches all)

def isSequence : Expr → Bool
  | .cat _ _ => true
  | _ => false

def commonLength {α : Type} [DecidableEq α] : List α → List α → Nat
  | a :: as, b :: bs => if a = b then commonLength as bs + 1 else 0
  | _, _ => 0

/-- How many parts all sequences begin with in common. -/
def sharedLength : List (List Expr) → Nat
  | [] => 0
  | first :: rest => rest.foldl (fun n ps => min n (commonLength first ps)) first.length

/-- A choice; parts that all branches begin with are taken out of it. The branches that are left
have no first part in common. -/
def choice (es : List Expr) : Expr :=
  let all := es.flatMap branches
  let lists := all.map parts
  let shared := sharedLength lists
  if 1 < all.length && (asSet? all).isNone && all.all isSequence && 0 < shared then
    let stem := (lists.head?.getD []).take shared
    sequence (stem ++ [plainChoice (lists.map fun ps => ofParts (ps.drop shared))])
  else plainChoice es

def onlyEmpty : Expr → Bool
  | .empty | .look _ => true
  | .text chars => chars.isEmpty
  | .set _ _ => false
  | .group _ body => body.onlyEmpty
  | .rep _ most _ body => most == some 0 || body.onlyEmpty
  | .cat first rest => first.onlyEmpty && rest.onlyEmpty
  | .alt first rest => first.onlyEmpty && rest.onlyEmpty

/-- A repetition. Rounds that match nothing are the same as one. -/
def repeated (least : Nat) (most : Option Nat) (greedy : Bool) (body : Expr) : Expr :=
  let (fewest, greatest) :=
    if body.onlyEmpty then (min least 1, some (min (most.getD 1) 1)) else (least, most)
  if greatest = some 0 then .empty
  else if fewest = 1 && greatest = some 1 then body
  else .rep fewest greatest greedy body

def matchesEmpty (p : Place) : Expr → Bool
  | .empty => true
  | .text chars => chars.isEmpty
  | .set _ _ => false
  | .look assertion => assertion.holds p
  | .group _ body => body.matchesEmpty p
  | .rep least _ _ body => least == 0 || body.matchesEmpty p
  | .cat first rest => first.matchesEmpty p && rest.matchesEmpty p
  | .alt first rest => first.matchesEmpty p || rest.matchesEmpty p

def andThen : Expr → Expr → Expr
  | .empty, rest => rest
  | first, rest => .cat first rest

/-- What is left of an expression after the character that follows a place. A repetition whose body
matches the empty text may count empty rounds. -/
def derivatives (p : Place) (c : Char) : Expr → List Expr
  | .empty => []
  | .text [] => []
  | .text [d] => if d = c then [.empty] else []
  | .text (d :: more) => if d = c then [.text more] else []
  | .set _ members => if members.contains c then [.empty] else []
  | .look _ => []
  | .group _ body => body.derivatives p c
  | .rep least most greedy body =>
    if most == some 0 then []
    else
      let fewer := if body.matchesEmpty p then 0 else least - 1
      (body.derivatives p c).map (andThen · (.rep fewer (most.map (· - 1)) greedy body))
  | .cat first rest =>
    (first.derivatives p c).map (andThen · rest) ++
      (if first.matchesEmpty p then rest.derivatives p c else [])
  | .alt first rest => first.derivatives p c ++ rest.derivatives p c

/-- Whether one of the expressions matches from here on, or `whole` from a later place on. -/
def search (whole : Expr) : List Expr → Option Char → List Char → Bool
  | active, before, [] => (whole :: active).any (·.matchesEmpty ⟨before, none⟩)
  | active, before, c :: rest =>
    let place : Place := ⟨before, some c⟩
    let states := whole :: active
    states.any (·.matchesEmpty place) ||
      search whole (states.flatMap (derivatives place c)).eraseDups (some c) rest

def matchesIn (e : Expr) (text : String) : Bool :=
  search e [] none text.toList

end Expr

end TemplateAudit.Pattern
