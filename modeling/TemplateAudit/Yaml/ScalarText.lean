import TemplateAudit.Json.Written
import TemplateAudit.Yaml.Input

/-!
# Scalars as written in YAML

Plain, quoted and block scalars. Line breaks inside plain and quoted scalars are folded: one break
is a space, and of several all but the first are kept. Block scalars keep their breaks when literal
and fold those between lines that do not start with a space when folded.
-/

namespace TemplateAudit.Yaml

set_option autoImplicit false

structure Gap where
  /-- The spaces before the first line break. -/
  spaces : List Char := []
  /-- Whether a line has ended. -/
  broken : Bool := false
  /-- Whether the first line break counts; an escaped one does not. -/
  folded : Bool := false
  /-- Line breaks after the first. -/
  breaks : Nat := 0

namespace Gap

def text (g : Gap) : List Char :=
  if g.broken then
    if g.folded && g.breaks == 0 then [' '] else List.replicate g.breaks '\n'
  else g.spaces

/-- Takes up spaces and line breaks, of which there are at most `fuel`. A tab may not stand left of
the least column of a continued line. -/
def extend? (leastColumn : Nat) : Nat → Gap → Input → Option (Gap × Input)
  | 0, g, i => some (g, i)
  | fuel + 1, g, i =>
    if isSpace i.peek then
      if g.broken then
        if i.peek = '\t' && i.column < leastColumn then none
        else extend? leastColumn fuel g i.skip
      else extend? leastColumn fuel { g with spaces := g.spaces ++ [i.peek] } i.skip
    else if isBreak i.peek then
      let next : Gap :=
        if g.broken then { g with breaks := g.breaks + 1 }
        else { broken := true, folded := true }
      extend? leastColumn fuel next i.skipBreak
    else some (g, i)

end Gap

/-- The characters of a plain scalar up to a gap or a mark that ends it. -/
def plainWord (flow : Bool) : List Char → List Char
  | [] => []
  | c :: rest =>
    let next := rest.headD endMark
    if isGap c then []
    else if c = ':' && (isGap next || (flow && isFlowMark next)) then []
    else if flow && isFlowMark c then []
    else c :: plainWord flow rest

/-- A plain scalar, whether a line ended after its last word, and the input after it. -/
def plainText? (flow : Bool) (margin : Nat) :
    Nat → List Char → Gap → Input → Option (List Char × Bool × Input)
  | 0, _, _, _ => none
  | fuel + 1, text, gap, i =>
    if i.atDocumentMark || i.peek = '#' then some (text, gap.broken, i)
    else
      let word := plainWord flow i.rest
      let (text, gap) := if word.isEmpty then (text, gap) else (text ++ gap.text ++ word, {})
      let i := i.drop word.length
      if isSpace i.peek || isBreak i.peek then
        match gap.extend? margin i.rest.length i with
        | none => none
        | some (gap, i) =>
          if !flow && i.column < margin then some (text, gap.broken, i)
          else plainText? flow margin fuel text gap i
      else some (text, gap.broken, i)

def escaped? (c : Char) : Option Char :=
  match c with
  | '0' => some (Char.ofNat 0)
  | 'a' => some (Char.ofNat 7)
  | 'b' => some (Char.ofNat 8)
  | 't' | '\t' => some '\t'
  | 'n' => some '\n'
  | 'v' => some (Char.ofNat 11)
  | 'f' => some (Char.ofNat 12)
  | 'r' => some '\r'
  | 'e' => some (Char.ofNat 27)
  | ' ' => some ' '
  | '"' => some '"'
  | '\'' => some '\''
  | '\\' => some '\\'
  | 'N' => some (Char.ofNat 0x85)
  | '_' => some (Char.ofNat 0xA0)
  | 'L' => some (Char.ofNat 0x2028)
  | 'P' => some (Char.ofNat 0x2029)
  | _ => none

def codeLength? (c : Char) : Option Nat :=
  match c with
  | 'x' => some 2
  | 'u' => some 4
  | 'U' => some 8
  | _ => none

def charOfCode? (code : Nat) : Option Char :=
  if code.isValidChar then some (Char.ofNat code) else none

def hexChar? (digits : List Char) (length : Nat) : Option Char :=
  if digits.length = length then
    match digits.mapM Json.Written.hexDigit? with
    | some values => charOfCode? (values.foldl (fun code d => code * 16 + d) 0)
    | none => none
  else none

/-- An escape and the input after it; the escape starts with a backslash. -/
def escape? (i : Input) : Option (Char × Input) :=
  let letter := i.peekAt 1
  match escaped? letter, codeLength? letter with
  | some c, _ => some (c, i.skip.skip)
  | none, some length =>
    let digits := i.skip.skip
    match hexChar? (digits.rest.take length) length with
    | some c => some (c, digits.drop length)
    | none => none
  | none, none => none

/-- The characters of a quoted scalar up to a gap or its closing quote, and whether an escaped line
break ended them. -/
def quotedWord? (single : Bool) : Nat → List Char → Input → Option (List Char × Bool × Input)
  | 0, _, _ => none
  | fuel + 1, word, i =>
    let c := i.peek
    if isGap c then some (word.reverse, false, i)
    else if single && c = '\'' then
      if i.peekAt 1 = '\'' then quotedWord? single fuel ('\'' :: word) i.skip.skip
      else some (word.reverse, false, i)
    else if !single && c = '"' then some (word.reverse, false, i)
    else if !single && c = '\\' then
      if isBreak (i.peekAt 1) then some (word.reverse, true, i.skip.skipBreak)
      else match escape? i with
        | some (e, after) => quotedWord? single fuel (e :: word) after
        | none => none
    else quotedWord? single fuel (c :: word) i.skip

/-- A quoted scalar after its opening quote, and the input after its closing one. -/
def quotedText? (single : Bool) : Nat → List Char → Input → Option (List Char × Input)
  | 0, _, _ => none
  | fuel + 1, text, i =>
    if i.atDocumentMark || i.atEnd then none
    else match quotedWord? single (i.rest.length + 1) [] i with
      | none => none
      | some (word, escapedBreak, i) =>
        let text := text ++ word
        if i.peek = (if single then '\'' else '"') then some (text, i.skip)
        else match Gap.extend? 0 i.rest.length { broken := escapedBreak } i with
          | none => none
          | some (gap, i) => quotedText? single fuel (text ++ gap.text) i

/-- What is done with the line breaks at the end of a block scalar. -/
inductive Chomping where
  | strip
  | clip
  | keep
deriving DecidableEq

/-- The header of a block scalar: its chomping and, when not zero, its indentation. -/
structure BlockHeader where
  chomping : Chomping := .clip
  increment : Nat := 0

namespace BlockHeader

def chomping? (c : Char) : Option Chomping :=
  if c = '+' then some .keep else if c = '-' then some .strip else none

/-- Reads chomping and indentation in either order, and the rest of the line. -/
def read? (i : Input) : Option (BlockHeader × Input) :=
  let (first, i) := match chomping? i.peek with
    | some c => (some c, i.skip)
    | none => (none, i)
  let (digit, i) := if i.peek.isDigit then (some (i.peek.toNat - 48), i.skip) else (none, i)
  let (second, i) := match first, digit, chomping? i.peek with
    | none, some _, some c => (some c, i.skip)
    | _, _, _ => (none, i)
  if digit = some 0 then none
  else i.skipLineEnd?.map fun after =>
    (⟨(first.or second).getD .clip, digit.getD 0⟩, after)

end BlockHeader

structure BlockText where
  text : List Char := []
  /-- Whether the last line has ended. -/
  ended : Bool := false
  /-- Empty lines after the last line. -/
  breaks : Nat := 0
  /-- Whether the last line starts with a space. -/
  spaced : Bool := false

/-- Moves past indentation and empty lines; `indent` is zero when it is not yet known. Answers the
number of empty lines and the greatest column that was reached. -/
def skipEmptyLines? (indent : Nat) : Nat → Nat → Nat → Input → Option (Nat × Nat × Input)
  | 0, breaks, greatest, i => some (breaks, greatest, i)
  | fuel + 1, breaks, greatest, i =>
    let spaces := (i.run (· == ' ')).length
    let i := i.drop (if indent = 0 then spaces else min spaces (indent - i.column))
    let greatest := max greatest i.column
    if i.peek = '\t' && (indent = 0 || i.column < indent) then none
    else if isBreak i.peek then skipEmptyLines? indent fuel (breaks + 1) greatest i.skipBreak
    else some (breaks, greatest, i)

def BlockText.joint (b : BlockText) (literal spaced : Bool) : List Char :=
  (if !b.ended then []
    else if literal || b.spaced || spaced then ['\n']
    else if b.breaks = 0 then [' '] else []) ++ List.replicate b.breaks '\n'

def blockLines? (literal : Bool) (indent : Nat) :
    Nat → BlockText → Input → Option (BlockText × Input)
  | 0, _, _ => none
  | fuel + 1, b, i =>
    if i.column ≠ indent || i.atEnd then some (b, i)
    else
      let spaced := isSpace i.peek
      let line := i.run fun c => !isBreakOrEnd c
      let text := b.text ++ b.joint literal spaced ++ line
      let after := i.drop line.length
      if after.atEnd then some ({ text := text, spaced := spaced }, after)
      else match skipEmptyLines? indent after.rest.length 0 0 after.skipBreak with
        | none => none
        | some (breaks, _, next) => blockLines? literal indent fuel ⟨text, true, breaks, spaced⟩ next

/-- A block scalar after its mark, under the given margin, and the input after it. -/
def blockText? (literal : Bool) (margin : Nat) (i : Input) : Option (List Char × Input) :=
  match BlockHeader.read? i with
  | none => none
  | some (header, i) =>
    let given := if header.increment = 0 then 0 else margin - 1 + header.increment
    match skipEmptyLines? given i.rest.length 0 0 i with
    | none => none
    | some (breaks, greatest, i) =>
      let indent := if given = 0 then max (max greatest margin) 1 else given
      match blockLines? literal indent (i.rest.length + 1) { breaks := breaks } i with
      | none => none
      | some (b, i) =>
        some (b.text ++ (if b.ended && header.chomping ≠ .strip then ['\n'] else []) ++
          (if header.chomping = .keep then List.replicate b.breaks '\n' else []), i)

end TemplateAudit.Yaml
