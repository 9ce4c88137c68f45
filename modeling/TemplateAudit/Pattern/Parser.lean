import TemplateAudit.Pattern.Program
import TemplateAudit.Text.Blank
import TemplateAudit.Unicode.Folding
import TemplateAudit.Unicode.Property

/-!
# Reading patterns

Patterns are read from left to right under flags that a group may set for its own part. Look-around,
back-references and unknown escapes are refused, `{` must belong to a repetition, and a pattern
whose parts nest too deeply or whose automata would be too large is refused as well.
-/

namespace TemplateAudit.Pattern

set_option autoImplicit false

open Text

structure Flags where
  caseless : Bool := false
  multiLine : Bool := false
  dotAll : Bool := false
  unicode : Bool := true
  /-- Blanks and comments between parts are passed over. -/
  extended : Bool := false
  crlf : Bool := false
  /-- Repetitions take as few rounds as they can, unless a question mark follows. -/
  lazy : Bool := false

/-- Passes blanks and comments; the first argument says whether a comment has begun. -/
def skipExtended : Bool → List Char → List Char
  | _, [] => []
  | true, c :: rest => skipExtended (c ≠ '\n') rest
  | false, c :: rest =>
    if isBlank c then skipExtended false rest
    else if c = '#' then skipExtended true rest
    else c :: rest

def Flags.skip (f : Flags) (cs : List Char) : List Char :=
  if f.extended then skipExtended false cs else cs

/-- A part of a pattern: its expression, how deeply its parts nest, and whether it can be
repeated. -/
structure Part where
  expr : Expr
  depth : Nat
  repeatable : Bool := true

inductive Element where
  /-- A character; `isByte` when it was given by two hexadecimal digits. -/
  | char (c : Char) (isByte : Bool)
  | set (s : RangeSet)
  | look (l : Look)

def metaCharacters : List Char := "\\.+*?()|[]\x7b\x7d^$#&-~".toList

/-- Whether a backslash before a character only stands for the character itself. -/
def isEscapable (c : Char) : Bool :=
  metaCharacters.contains c ||
    (c.toNat < 128 && !c.isAlphanum && c ≠ '<' && c ≠ '>')

def hexValue? (c : Char) : Option Nat :=
  let n := c.toNat
  if 48 ≤ n ∧ n ≤ 57 then some (n - 48)
  else if 97 ≤ n ∧ n ≤ 102 then some (n - 87)
  else if 65 ≤ n ∧ n ≤ 70 then some (n - 55)
  else none

def scalar? (code : Nat) : Option Char :=
  if code < 0xD800 || (0xDFFF < code && code < 0x110000) then some (Char.ofNat code) else none

def hexDigits? (f : Flags) : Nat → Nat → List Char → Option (Nat × List Char)
  | 0, value, cs => some (value, cs)
  | count + 1, value, c :: rest =>
    match hexValue? c with
    | some d => hexDigits? f count (value * 16 + d) (f.skip rest)
    | none => none
  | _ + 1, _, [] => none

/-- Hexadecimal digits up to a closing brace; `none` in the state stands for no digit yet. -/
def hexBrace? (f : Flags) : Nat → Option Nat → List Char → Option (Nat × List Char)
  | 0, _, _ => none
  | _, _, [] => none
  | fuel + 1, value, c :: rest =>
    if c = '}' then value.map fun v => (v, f.skip rest)
    else match hexValue? c with
      | some d => hexBrace? f fuel (some (value.getD 0 * 16 + d)) (f.skip rest)
      | none => none

/-- The rest of a hexadecimal escape of `count` digits or in braces. -/
def hexEscape? (f : Flags) (count : Nat) (cs : List Char) : Option (Element × List Char) :=
  match f.skip cs with
  | '{' :: rest => do
    let (code, after) ← hexBrace? f (rest.length + 1) none (f.skip rest)
    return (.char (← scalar? code) false, after)
  | other => do
    let (code, after) ← hexDigits? f count 0 other
    return (.char (← scalar? code) (count == 2), after)

/-- The text up to a closing brace, less the blanks and comments in it when they do not count. -/
def bracedName? (f : Flags) : Nat → List Char → Option (List Char × List Char)
  | 0, _ => none
  | _, [] => none
  | fuel + 1, c :: rest =>
    if c = '}' then some ([], rest)
    else (bracedName? f fuel (f.skip rest)).map fun (name, after) => (c :: name, after)

/-- The characters of a property given by name, or by kind and value with `=`, `:` or `!=` between
them, and whether the name negates it. -/
def namedProperty? (name : List Char) : Option (RangeSet × Bool) :=
  let text := String.ofList name
  match text.splitOn "!=" with
  | kind :: value :: more =>
    (Unicode.membersByValue? kind ("!=".intercalate (value :: more))).map fun s => (s, true)
  | _ =>
    let separator := if name.contains ':' then ":" else "="
    match text.splitOn separator with
    | kind :: value :: more =>
      (Unicode.membersByValue? kind (separator.intercalate (value :: more))).map fun s => (s, false)
    | _ => (Unicode.membersByName? text).map fun s => (s, false)

def Flags.caselessSet (f : Flags) (s : RangeSet) : RangeSet :=
  if f.caseless then (if f.unicode then Unicode.caseless s else Unicode.asciiCaseless s) else s

/-- A set taken up under the flags: folded, then negated. Without Unicode a negated set would hold
bytes that are not characters. -/
def Flags.finish? (f : Flags) (negated : Bool) (s : RangeSet) : Option RangeSet :=
  let folded := f.caselessSet s
  if negated then (if f.unicode then some folded.compl else none) else some folded

def propertyEscape? (f : Flags) (negated : Bool) (cs : List Char) : Option (Element × List Char) :=
  match f.skip cs with
  | [] => none
  | '{' :: rest => do
    let (name, after) ← bracedName? f (rest.length + 1) (f.skip rest)
    let (s, flipped) ← namedProperty? name
    if f.unicode then return (.set (← f.finish? (negated != flipped) s), after) else none
  | c :: rest => do
    if c = '\\' then none
    let s ← Unicode.membersByName? (String.ofList [c])
    if f.unicode then return (.set (← f.finish? negated s), f.skip rest) else none

def shorthand? (f : Flags) (c : Char) : Option RangeSet :=
  let digit := if f.unicode then Unicode.category ["Nd"] else asciiDigit
  let space := if f.unicode then Unicode.whiteSpace else asciiSpace
  let word := if f.unicode then Unicode.wordCharacter else asciiWord
  let negate (s : RangeSet) : Option RangeSet := if f.unicode then some s.compl else none
  match c with
  | 'd' => some digit
  | 's' => some space
  | 'w' => some word
  | 'D' => negate digit
  | 'S' => negate space
  | 'W' => negate word
  | _ => none

/-- The letters and hyphens that name a special word boundary, and the text after them. -/
def boundaryName (f : Flags) : Nat → List Char → List Char × List Char
  | 0, cs => ([], cs)
  | _, [] => ([], [])
  | fuel + 1, c :: rest =>
    if c.isAlpha || c = '-' then
      let (name, after) := boundaryName f fuel (f.skip rest)
      (c :: name, after)
    else ([], c :: rest)

/-- A word boundary; a brace after it may name one half of it or begin a repetition. -/
def boundary? (f : Flags) (cs : List Char) : Option (Look × List Char) :=
  match cs with
  | '{' :: rest =>
    match f.skip rest with
    | [] => none
    | c :: more =>
      if c.isAlpha || c = '-' then
        match boundaryName f (more.length + 1) (c :: more) with
        | (name, '}' :: after) =>
          match String.ofList name with
          | "start" => some (.wordStart f.unicode, after)
          | "end" => some (.wordStop f.unicode, after)
          | "start-half" => some (.wordStartHalf f.unicode, after)
          | "end-half" => some (.wordStopHalf f.unicode, after)
          | _ => none
        | _ => none
      else some (.word f.unicode, cs)
  | _ => some (.word f.unicode, cs)

def escape? (f : Flags) (cs : List Char) : Option (Element × List Char) :=
  match cs with
  | [] => none
  | c :: rest =>
    if isEscapable c then some (.char c false, rest)
    else match c with
      | 'x' => hexEscape? f 2 rest
      | 'u' => hexEscape? f 4 rest
      | 'U' => hexEscape? f 8 rest
      | 'p' => propertyEscape? f false rest
      | 'P' => propertyEscape? f true rest
      | 'a' => some (.char (Char.ofNat 7) false, rest)
      | 'f' => some (.char (Char.ofNat 12) false, rest)
      | 't' => some (.char '\t' false, rest)
      | 'n' => some (.char '\n' false, rest)
      | 'r' => some (.char '\r' false, rest)
      | 'v' => some (.char (Char.ofNat 11) false, rest)
      | 'A' => some (.look .start, rest)
      | 'z' => some (.look .stop, rest)
      | 'b' => (boundary? f rest).map fun (l, after) => (.look l, after)
      | 'B' => some (.look (.notWord f.unicode), rest)
      | '<' => some (.look (.wordStart f.unicode), rest)
      | '>' => some (.look (.wordStop f.unicode), rest)
      | other => (shorthand? f other).map fun s => (.set s, rest)

/-- A character that may stand for itself: without Unicode, two hexadecimal digits beyond ASCII
would be a byte that is not a character. -/
def Flags.admits (f : Flags) (c : Char) (isByte : Bool) : Bool :=
  f.unicode || !isByte || c.toNat < 128

def classElement? (f : Flags) : List Char → Option (Element × List Char)
  | [] => none
  | '\\' :: rest => escape? f rest
  | c :: rest => some (.char c false, rest)

/-- The character of an element that may end a range. -/
def classChar? (f : Flags) : Element → Option Char
  | .char c isByte =>
    if f.unicode || (c.toNat < 128 && f.admits c isByte) then some c else none
  | _ => none

def classRange? (f : Flags) (cs : List Char) : Option (RangeSet × List Char) := do
  let (first, afterFirst) ← classElement? f cs
  let next := f.skip afterFirst
  let alone : Option (RangeSet × List Char) := match first with
    | .set s => some (s, next)
    | .look _ => none
    | .char _ _ => (classChar? f first).map fun c => (.single c.toNat, next)
  match next with
  | [] => none
  | '-' :: rest =>
    match f.skip rest with
    | [] => none
    | c :: more =>
      if c = ']' || c = '-' then alone
      else do
        let (second, after) ← classElement? f (c :: more)
        let low ← classChar? f first
        let high ← classChar? f second
        if low.toNat ≤ high.toNat then some (.range low.toNat high.toNat, after) else none
  | _ => alone

/-- An ASCII class such as `[:alpha:]`, its opening bracket already taken off. -/
def asciiClassName? (cs : List Char) : Option (Bool × String × List Char) :=
  match cs with
  | ':' :: rest =>
    let (negated, named) := match rest with
      | '^' :: more => (true, more)
      | _ => (false, rest)
    let name := named.takeWhile (· ≠ ':')
    match named.dropWhile (· ≠ ':') with
    | ':' :: ']' :: after => some (negated, String.ofList name, after)
    | _ => none
  | _ => none

inductive ClassOp where
  | inter
  | diff
  | symmDiff

/-- A set, and how deeply the classes in it nest. -/
structure ClassPart where
  set : RangeSet
  depth : Nat

/-- A bracketed class while it is read: what stands before the last operation, and the union
since. -/
structure ClassState where
  before : Option (ClassPart × ClassOp)
  union : List ClassPart

def ClassState.add (s : ClassState) (p : ClassPart) : ClassState :=
  { s with union := s.union ++ [p] }

/-- The union of parts; a union of several parts nests one level. -/
def unionOf (parts : List ClassPart) : ClassPart :=
  match parts with
  | [] => ⟨.empty, 0⟩
  | [p] => p
  | p :: rest =>
    ⟨rest.foldl (fun s q => s.union q.set) p.set,
      rest.foldl (fun d q => max d q.depth) p.depth + 1⟩

def ClassState.close (f : Flags) (s : ClassState) : ClassPart :=
  let last := unionOf s.union
  match s.before with
  | none => last
  | some (left, op) =>
    let a := f.caselessSet left.set
    let b := f.caselessSet last.set
    let set := match op with
      | .inter => a.inter b
      | .diff => a.diff b
      | .symmDiff => a.symmDiff b
    ⟨set, max left.depth last.depth + 1⟩

def ClassState.operate (f : Flags) (s : ClassState) (op : ClassOp) : ClassState :=
  ⟨some (s.close f, op), []⟩

/-- Hyphens right after the opening of a class stand for themselves. -/
def leadingHyphens (f : Flags) : Nat → List Char → Nat × List Char
  | 0, cs => (0, cs)
  | _, [] => (0, [])
  | fuel + 1, c :: rest =>
    if c = '-' then
      let (count, after) := leadingHyphens f fuel (f.skip rest)
      (count + 1, after)
    else (0, c :: rest)

/-- The opening of a class after its bracket: whether it is negated, and its first characters. -/
def classOpening? (f : Flags) (cs : List Char) : Option (Bool × ClassState × List Char) :=
  let opened := f.skip cs
  let (negated, inner) := match opened with
    | '^' :: rest => (true, f.skip rest)
    | _ => (false, opened)
  let (hyphens, next) := leadingHyphens f (inner.length + 1) inner
  let start : ClassState := ⟨none, List.replicate hyphens ⟨.single '-'.toNat, 0⟩⟩
  match next with
  | [] => none
  | ']' :: rest =>
    if hyphens = 0 then
      let after := f.skip rest
      if after.isEmpty then none else some (negated, start.add ⟨.single ']'.toNat, 0⟩, after)
    else some (negated, start, next)
  | _ => some (negated, start, next)

mutual

def class? (f : Flags) : Nat → List Char → Option (ClassPart × List Char)
  | 0, _ => none
  | fuel + 1, cs => do
    let (negated, state, inner) ← classOpening? f cs
    let (part, after) ← classBody? f fuel state inner
    let set ← f.finish? negated part.set
    return (⟨set, part.depth + 1⟩, after)

def classBody? (f : Flags) : Nat → ClassState → List Char → Option (ClassPart × List Char)
  | 0, _, _ => none
  | fuel + 1, state, cs =>
    match f.skip cs with
    | [] => none
    | '[' :: rest =>
      match (asciiClassName? rest).bind fun (negated, name, after) =>
          (asciiClass? name).map fun s => (negated, s, after) with
      | some (negated, s, after) => do
        let set ← f.finish? negated s
        classBody? f fuel (state.add ⟨set, 0⟩) after
      | none => do
        let (part, after) ← class? f fuel rest
        classBody? f fuel (state.add part) after
    | ']' :: rest => some (state.close f, rest)
    | '&' :: '&' :: rest => classBody? f fuel (state.operate f .inter) rest
    | '-' :: '-' :: rest => classBody? f fuel (state.operate f .diff) rest
    | '~' :: '~' :: rest => classBody? f fuel (state.operate f .symmDiff) rest
    | other => do
      let (set, after) ← classRange? f other
      classBody? f fuel (state.add ⟨set, 0⟩) after

end

/-- The digits of a count, with blanks around them; a count has at most 32 bits. -/
def countDigits (f : Flags) : Nat → List Char → List Char × List Char
  | 0, cs => ([], cs)
  | _, [] => ([], [])
  | fuel + 1, c :: rest =>
    if c.isDigit then
      let (ds, after) := countDigits f fuel (f.skip rest)
      (c :: ds, after)
    else ([], c :: rest)

def skipBlanks (f : Flags) : Nat → List Char → List Char
  | 0, cs => cs
  | _, [] => []
  | fuel + 1, c :: rest =>
    if isBlank c then skipBlanks f fuel (f.skip rest) else c :: rest

def count? (f : Flags) (cs : List Char) : Option (Option Nat × List Char) :=
  let start := cs.dropWhile isBlank
  let (digits, afterDigits) := countDigits f (start.length + 1) start
  let after := skipBlanks f (afterDigits.length + 1) afterDigits
  if digits.isEmpty then some (none, after)
  else
    let n := digits.foldl (fun n c => n * 10 + (c.toNat - 48)) 0
    if n < UInt32.size then some (some n, after) else none

def questionMark : List Char → Bool × List Char
  | '?' :: rest => (true, rest)
  | other => (false, other)

/-- The rest of a counted repetition after its opening brace: its counts, and whether a question
mark follows. -/
def counted? (f : Flags) (cs : List Char) : Option (Nat × Option Nat × Bool × List Char) := do
  let opened := f.skip cs
  if opened.isEmpty then none
  let (first, afterFirst) ← count? f opened
  let least ← first
  let (most, closing) ← match afterFirst with
    | ',' :: rest =>
      match f.skip rest with
      | [] => none
      | '}' :: more => some (none, '}' :: more)
      | other => do
        let (second, after) ← count? f other
        let most ← second
        some (some most, after)
    | other => some (some least, other)
  match closing with
  | '}' :: rest =>
    let next := f.skip rest
    let (marked, after) := questionMark next
    match most with
    | some n => if least ≤ n then some (least, most, marked, after) else none
    | none => some (least, none, marked, after)
  | _ => none

def Flags.set? (f : Flags) (value : Bool) : Char → Option Flags
  | 'i' => some { f with caseless := value }
  | 'm' => some { f with multiLine := value }
  | 's' => some { f with dotAll := value }
  | 'u' => some { f with unicode := value }
  | 'x' => some { f with extended := value }
  | 'R' => some { f with crlf := value }
  | 'U' => some { f with lazy := value }
  | _ => none

/-- The flags of a group up to its colon or closing parenthesis, none of them given twice, with at
most one hyphen, which a flag must follow. -/
def groupFlags? : List Char → List Char → Bool → Flags → Option (Flags × List Char × List Char)
  | [], _, _, _ => none
  | c :: rest, seen, negated, f =>
    if c = ':' || c = ')' then
      if seen.head? = some '-' then none else some (f, seen, c :: rest)
    else if seen.contains c then none
    else if c = '-' then groupFlags? rest (c :: seen) true f
    else match f.set? (!negated) c with
      | some next => groupFlags? rest (c :: seen) negated next
      | none => none

/-- Letters that Unicode 17.0 has and 16.0 has not. -/
def recentLetters : RangeSet :=
  .ofRanges [(0x88F, 0x88F), (0xC5C, 0xC5C), (0xCDC, 0xCDC), (0xA7CE, 0xA7CF), (0xA7D2, 0xA7D2),
    (0xA7D4, 0xA7D4), (0xA7F1, 0xA7F1), (0x10940, 0x10959), (0x10EC5, 0x10EC7), (0x10EFA, 0x10EFB),
    (0x11B60, 0x11B67), (0x11DB0, 0x11DDB), (0x16EA0, 0x16EB8), (0x16EBB, 0x16ED3),
    (0x16FF2, 0x16FF6), (0x187F8, 0x187FF), (0x18D09, 0x18D1E), (0x18D80, 0x18DF2),
    (0x1E6C0, 0x1E6DE), (0x1E6E0, 0x1E6F5), (0x1E6FE, 0x1E6FF), (0x2B73A, 0x2B73F),
    (0x2CEA2, 0x2CEAD), (0x323B0, 0x33479)]

def nameLetter : RangeSet :=
  Unicode.alphabetic.union recentLetters

def nameNumber : RangeSet :=
  (Unicode.category ["Nd", "Nl", "No"]).union (.ofRanges [(0x11DE0, 0x11DE9), (0x16FF4, 0x16FF6)])

def isNameChar (first : Bool) (c : Char) : Bool :=
  c = '_' || nameLetter.contains c ||
    (!first && (c = '.' || c = '[' || c = ']' || nameNumber.contains c))

/-- The name of a group up to and with its closing angle bracket. -/
def groupName? (cs : List Char) : Option (String × List Char) :=
  let name := cs.takeWhile (· ≠ '>')
  match name, cs.dropWhile (· ≠ '>') with
  | first :: more, _ :: after =>
    if isNameChar true first && more.all (isNameChar false) then
      some (String.ofList (first :: more), after)
    else none
  | _, _ => none

/-- What is left of a pattern, the flags, and the names and the number of the groups so far. -/
structure State where
  rest : List Char
  flags : Flags := {}
  names : List String := []
  groups : Nat := 0

/-- A group after its opening parenthesis: flags for what follows, or the start of a part, which is
remembered under an index or not. -/
inductive Opening where
  | setFlags (state : State)
  | group (index : Option Nat) (state : State)

def Opening.numbered (s : State) : Opening :=
  .group (some (s.groups + 1)) { s with groups := s.groups + 1 }

def opening? (s : State) (cs : List Char) : Option Opening :=
  match s.flags.skip cs with
  | '?' :: '=' :: _ | '?' :: '!' :: _ | '?' :: '<' :: '=' :: _ | '?' :: '<' :: '!' :: _ => none
  | '?' :: 'P' :: '<' :: rest | '?' :: '<' :: rest => do
    let (name, after) ← groupName? rest
    if s.names.contains name then none
    else some (.numbered { s with rest := after, names := name :: s.names })
  | '?' :: rest => do
    let (flags, seen, after) ← groupFlags? rest [] false s.flags
    match after with
    | ')' :: more =>
      if seen.isEmpty then none else some (.setFlags { s with rest := more, flags := flags })
    | _ :: more => some (.group none { s with rest := more, flags := flags })
    | [] => none
  | other => some (.numbered { s with rest := other })

/-- Parts one after another; several parts nest one level. -/
def sequence (parts : List Part) : Part :=
  match parts with
  | [] => ⟨.empty, 0, false⟩
  | [p] => p
  | p :: rest =>
    ⟨Expr.sequence ((p :: rest).map Part.expr),
      rest.foldl (fun d q => max d q.depth) p.depth + 1, true⟩

def alternatives (parts : List Part) : Part :=
  match parts with
  | [] => ⟨.empty, 0, true⟩
  | [p] => p
  | p :: rest =>
    ⟨Expr.choice ((p :: rest).map Part.expr),
      rest.foldl (fun d q => max d q.depth) p.depth + 1, true⟩

/-- A character as it is, or all that differ from it in case only. -/
def Flags.literal (f : Flags) (c : Char) : Expr :=
  .ofSet f.unicode (f.caselessSet (.single c.toNat))

def Flags.element? (f : Flags) : Element → Option Expr
  | .char c isByte => if f.admits c isByte then some (f.literal c) else none
  | .set s => some (.ofSet f.unicode s)
  | .look l => some (.look l)

/-- Any character but those that end a line; without Unicode it would be a byte. -/
def Flags.dot? (f : Flags) : Option Expr :=
  if !f.unicode then none
  else if f.dotAll then some (.ofSet true .all)
  else if f.crlf then some (.ofSet true (RangeSet.ofCodes [10, 13]).compl)
  else some (.ofSet true (RangeSet.single 10).compl)

def Flags.lineStart (f : Flags) : Look :=
  if f.multiLine then (if f.crlf then .lineStartCrlf else .lineStart) else .start

def Flags.lineStop (f : Flags) : Look :=
  if f.multiLine then (if f.crlf then .lineStopCrlf else .lineStop) else .stop

/-- Repeats the last of the parts, which are given in reverse. -/
def repeatLast? (least : Nat) (most : Option Nat) (greedy : Bool) : List Part → Option (List Part)
  | p :: before =>
    if p.repeatable then
      some (⟨.repeated least most greedy p.expr, p.depth + 1, true⟩ :: before)
    else none
  | [] => none

def grouped (index : Option Nat) (body : Expr) : Expr :=
  match index with
  | some n => .group n body
  | none => body

/-- Reads alternatives up to a closing parenthesis or the end: `parts` are those of the current
alternative and `done` the alternatives before it, both in reverse. -/
def parts? : Nat → List Part → List Part → State → Option (Part × State)
  | 0, _, _, _ => none
  | fuel + 1, parts, done, s =>
    let f := s.flags
    let close (rest : List Char) : Part × State :=
      (alternatives (sequence parts.reverse :: done).reverse, { s with rest := rest })
    let push (e : Expr) (rest : List Char) : Option (Part × State) :=
      parts? fuel (⟨e, 0, true⟩ :: parts) done { s with rest := rest }
    let again (least : Nat) (most : Option Nat) (marked : Bool) (rest : List Char) :
        Option (Part × State) :=
      match repeatLast? least most (marked == f.lazy) parts with
      | some repeated => parts? fuel repeated done { s with rest := rest }
      | none => none
    match f.skip s.rest with
    | [] => some (close [])
    | ')' :: rest => some (close (')' :: rest))
    | '|' :: rest => parts? fuel [] (sequence parts.reverse :: done) { s with rest := rest }
    | '(' :: rest =>
      match opening? s rest with
      | none => none
      | some (.setFlags next) => parts? fuel (⟨.empty, 0, false⟩ :: parts) done next
      | some (.group index inner) =>
        match parts? fuel [] [] inner with
        | some (body, after) =>
          match after.rest with
          | ')' :: more =>
            parts? fuel (⟨grouped index body.expr, body.depth + 1, true⟩ :: parts) done
              { after with rest := more, flags := f }
          | _ => none
        | none => none
    | '[' :: rest =>
      match class? f (2 * rest.length + 2) rest with
      | some (part, after) =>
        parts? fuel (⟨.ofSet f.unicode part.set, part.depth, true⟩ :: parts) done
          { s with rest := after }
      | none => none
    | '?' :: rest => again 0 (some 1) (questionMark rest).1 (questionMark rest).2
    | '*' :: rest => again 0 none (questionMark rest).1 (questionMark rest).2
    | '+' :: rest => again 1 none (questionMark rest).1 (questionMark rest).2
    | '{' :: rest =>
      match counted? f rest with
      | some (least, most, marked, after) => again least most marked after
      | none => none
    | '.' :: rest =>
      match f.dot? with
      | some e => push e rest
      | none => none
    | '^' :: rest => push (.look f.lineStart) rest
    | '$' :: rest => push (.look f.lineStop) rest
    | '\\' :: rest =>
      match escape? f rest with
      | some (element, after) =>
        match f.element? element with
        | some e => push e after
        | none => none
      | none => none
    | c :: rest => push (f.literal c) rest

def deepest : Nat := 250

end TemplateAudit.Pattern

namespace TemplateAudit

structure Pattern where
  expr : Pattern.Expr

namespace Pattern

/-- Reads a pattern; `none` when it is not one. Two units of fuel a character are enough, since a
character is consumed between any two nested calls. -/
def compile? (text : String) : Option Pattern :=
  match parts? (2 * text.length + 2) [] [] { rest := text.toList } with
  | some (part, s) =>
    if s.rest.isEmpty && part.depth ≤ deepest && part.expr.fits then some ⟨part.expr⟩ else none
  | none => none

def isMatch (p : Pattern) (text : String) : Bool :=
  p.expr.matchesIn text

end Pattern

end TemplateAudit
