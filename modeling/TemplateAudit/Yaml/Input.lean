/-!
# Positions in YAML texts

A text is read character by character with its position kept: lines end at a line feed only, and
the text ends where it does or at a NUL character.
-/

namespace TemplateAudit.Yaml

set_option autoImplicit false

/-- The character that stands for the end of the text. -/
def endMark : Char := Char.ofNat 0

def isSpace (c : Char) : Bool :=
  c == ' ' || c == '\t'

def isBreak (c : Char) : Bool :=
  c == '\n' || c == '\r'

def isBreakOrEnd (c : Char) : Bool :=
  isBreak c || c == endMark

/-- What ends a word: space, tab, a line break or the end of the text. -/
def isGap (c : Char) : Bool :=
  isSpace c || isBreakOrEnd c

def isFlowMark (c : Char) : Bool :=
  c == ',' || c == '[' || c == ']' || c == '{' || c == '}'

/-- What names of anchors, handles and directives are made of. -/
def isWordChar (c : Char) : Bool :=
  c.isAlphanum || c == '_' || c == '-'

/-- The rest of a text and where it starts. -/
structure Input where
  rest : List Char
  index : Nat := 0
  line : Nat := 0
  column : Nat := 0

namespace Input

def peekAt (i : Input) (ahead : Nat) : Char :=
  i.rest.getD ahead endMark

def peek (i : Input) : Char :=
  i.peekAt 0

def atEnd (i : Input) : Bool :=
  i.peek == endMark

def skip (i : Input) : Input :=
  match i.rest with
  | [] => i
  | c :: rest =>
    if c = '\n' then ⟨rest, i.index + 1, i.line + 1, 0⟩
    else ⟨rest, i.index + 1, i.line, i.column + 1⟩

def drop : Nat → Input → Input
  | 0, i => i
  | count + 1, i => i.skip.drop count

def run (i : Input) (p : Char → Bool) : List Char :=
  i.rest.takeWhile p

def skipWhile (i : Input) (p : Char → Bool) : Input :=
  i.drop (i.run p).length

/-- Moves past a line break; a carriage return and a line feed are one. -/
def skipBreak (i : Input) : Input :=
  if i.peek = '\r' && i.peekAt 1 = '\n' then i.skip.skip
  else if isBreak i.peek then i.skip
  else i

def skipLine (i : Input) : Input :=
  i.skipWhile fun c => !isBreakOrEnd c

/-- Moves past spaces and a comment that ends the line; `none` when anything else is left on it. -/
def skipLineEnd? (i : Input) : Option Input :=
  let blank := i.skipWhile isSpace
  let next := if blank.peek = '#' then blank.skipLine else blank
  if isBreakOrEnd next.peek then some next.skipBreak else none

/-- Whether three equal characters stand at the start of a line, followed by a gap. -/
def atTriple (i : Input) (c : Char) : Bool :=
  i.column == 0 && i.peek == c && i.peekAt 1 == c && i.peekAt 2 == c && isGap (i.peekAt 3)

/-- Whether a line that starts or ends a document starts here. -/
def atDocumentMark (i : Input) : Bool :=
  i.atTriple '-' || i.atTriple '.'

end Input

end TemplateAudit.Yaml
