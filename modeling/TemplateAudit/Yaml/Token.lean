import TemplateAudit.Yaml.ScalarText

/-!
# Tokens of YAML texts

Block structure is made explicit: a deeper column opens a block collection and a shallower one
closes it. A key that is not marked as such is recognised by the colon after it, so its token is
put in afterwards, at the place that was remembered when the key started. Such a key has to stand on
one line and within 1024 characters.
-/

namespace TemplateAudit.Yaml

set_option autoImplicit false

structure Tag where
  handle : String
  suffix : String
deriving DecidableEq

inductive Token where
  | directive
  | documentStart
  | documentEnd
  | blockSequenceStart
  | blockMappingStart
  | blockEnd
  | flowSequenceStart
  | flowSequenceEnd
  | flowMappingStart
  | flowMappingEnd
  | blockEntry
  | flowEntry
  | key
  | value
  | alias (name : String)
  | anchor (name : String)
  | tag (value : Tag)
  | scalar (plain : Bool) (text : String)
deriving DecidableEq

/-- The place at which a key may have started. -/
structure SimpleKey where
  possible : Bool := false
  /-- Whether the text is malformed when no colon follows. -/
  required : Bool := false
  /-- Number of tokens before the key. -/
  position : Nat := 0
  index : Nat := 0
  line : Nat := 0
  column : Nat := 0

structure Scanner where
  input : Input
  /-- The tokens so far, the last one first. -/
  tokens : List Token := []
  /-- Whether a key may start here. -/
  keyAllowed : Bool := true
  /-- The latest possible key of each enclosing collection, the innermost first. -/
  keys : List SimpleKey := [{}]
  /-- One more than the column of the innermost block collection; zero outside of all. -/
  margin : Nat := 0
  /-- The margins of the enclosing block collections. -/
  margins : List Nat := []
  flowDepth : Nat := 0
  /-- Where a colon may follow a quoted key directly. -/
  valueIndex : Nat := 0

namespace Scanner

def inFlow (s : Scanner) : Bool :=
  s.flowDepth != 0

def push (s : Scanner) (token : Token) : Scanner :=
  { s with tokens := token :: s.tokens }

/-- Puts a token before all but the first `position` tokens. -/
def insert (s : Scanner) (position : Nat) (token : Token) : Scanner :=
  let later := s.tokens.length - position
  { s with tokens := s.tokens.take later ++ token :: s.tokens.drop later }

def allowKey (s : Scanner) (allowed : Bool) : Scanner :=
  { s with keyAllowed := allowed }

def advance (s : Scanner) (count : Nat) : Scanner :=
  { s with input := s.input.drop count }

def currentKey (s : Scanner) : SimpleKey :=
  s.keys.headD {}

/-- Gives up the current key; fails when it was required. -/
def dropKey? (s : Scanner) : Option Scanner :=
  let key := s.currentKey
  if key.possible && key.required then none
  else some { s with keys := { key with possible := false } :: s.keys.drop 1 }

def startKey? (s : Scanner) : Option Scanner :=
  if s.keyAllowed then
    s.dropKey?.map fun s => { s with
      keys := ⟨true, s.inFlow && s.margin == s.input.column + 1, s.tokens.length,
        s.input.index, s.input.line, s.input.column⟩ :: s.keys.drop 1 }
  else some s

def isStale (s : Scanner) (key : SimpleKey) : Bool :=
  key.possible && (decide (key.line < s.input.line) || decide (key.index + 1024 < s.input.index))

/-- Gives up the keys that lie too far back; fails when one was required. -/
def dropStaleKeys? (s : Scanner) : Option Scanner :=
  let refresh (key : SimpleKey) : SimpleKey :=
    if s.isStale key then { key with possible := false } else key
  if s.keys.any (fun key => s.isStale key && key.required) then none
  else some { s with keys := s.keys.map refresh }

/-- Opens a block collection at a column when it is deeper than the current one. The opening token
goes to the end or before all but some first tokens. -/
def openBlock (s : Scanner) (column : Nat) (position : Option Nat) (token : Token) : Scanner :=
  if s.inFlow || column < s.margin then s
  else
    let deeper := { s with margins := s.margin :: s.margins, margin := column + 1 }
    match position with
    | some n => deeper.insert n token
    | none => deeper.push token

/-- Leaves the margins beyond a target, with a token for each. -/
def leaveMargins (target : Nat) : Nat → List Nat → List Token → Nat × List Nat × List Token
  | margin, [], tokens => (margin, [], tokens)
  | margin, outer :: rest, tokens =>
    if target < margin then leaveMargins target outer rest (.blockEnd :: tokens)
    else (margin, outer :: rest, tokens)

def closeBlocks (s : Scanner) (target : Nat) : Scanner :=
  if s.inFlow then s
  else
    let (margin, margins, tokens) := leaveMargins target s.margin s.margins s.tokens
    { s with margin := margin, margins := margins, tokens := tokens }

/-- Moves past spaces, line breaks and comments. Tabs do not indent. -/
def skipBlanks : Nat → Scanner → Scanner
  | 0, s => s
  | fuel + 1, s =>
    let c := s.input.peek
    if c = ' ' || (c = '\t' && (s.inFlow || !s.keyAllowed)) then skipBlanks fuel (s.advance 1)
    else if isBreak c then
      skipBlanks fuel { s with
        input := s.input.skipBreak, keyAllowed := s.keyAllowed || !s.inFlow }
    else if c = '#' then skipBlanks fuel { s with input := s.input.skipLine }
    else s

/-- A token of some characters before which no key is pending. -/
def mark? (s : Scanner) (length : Nat) (keyAllowed : Bool) (token : Token) : Option Scanner :=
  s.dropKey?.map fun s => ((s.allowKey keyAllowed).advance length).push token

def documentMark? (s : Scanner) (token : Token) : Option Scanner :=
  (s.closeBlocks 0).mark? 3 false token

def flowStart? (s : Scanner) (token : Token) : Option Scanner :=
  match s.startKey? with
  | none => none
  | some s =>
    if s.flowDepth < 255 then
      some (({ s with keys := {} :: s.keys, flowDepth := s.flowDepth + 1, keyAllowed := true }
        |>.advance 1).push token)
    else none

def flowEnd? (s : Scanner) (token : Token) : Option Scanner :=
  match s.dropKey? with
  | none => none
  | some s =>
    let outer := if s.inFlow then
      { s with keys := s.keys.drop 1, flowDepth := s.flowDepth - 1 } else s
    some (((outer.allowKey false).advance 1).push token)

def blockEntry? (s : Scanner) : Option Scanner :=
  if s.inFlow || !s.keyAllowed then none
  else (s.openBlock s.input.column none .blockSequenceStart).mark? 1 true .blockEntry

def key? (s : Scanner) : Option Scanner :=
  if s.inFlow then s.mark? 1 false .key
  else if s.keyAllowed then
    (s.openBlock s.input.column none .blockMappingStart).mark? 1 true .key
  else none

def value? (s : Scanner) : Option Scanner :=
  let key := s.currentKey
  if key.possible then
    let marked := (s.insert key.position .key).openBlock key.column (some key.position)
      .blockMappingStart
    some (({ marked with
      keys := { key with possible := false } :: s.keys.drop 1, keyAllowed := false }
        |>.advance 1).push .value)
  else if s.inFlow then some (((s.allowKey false).advance 1).push .value)
  else if s.keyAllowed then
    some (((s.openBlock s.input.column none .blockMappingStart).advance 1).push .value)
  else none

def endsAnchor (c : Char) : Bool :=
  isGap c || c == '?' || c == ':' || c == ',' || c == ']' || c == '}' || c == '%' || c == '@' ||
    c.toNat == 96

def anchor? (s : Scanner) (token : String → Token) : Option Scanner :=
  s.startKey?.bind fun s =>
    let named := s.advance 1
    let name := named.input.run isWordChar
    let after := named.advance name.length
    if name.isEmpty || !endsAnchor after.input.peek then none
    else some ((after.allowKey false).push (token (String.ofList name)))

def isTagChar (c : Char) : Bool :=
  isWordChar c || ";/?:@&=+$,.!~*'()[]%".toList.contains c

/-- Number of bytes that the first byte of an encoded character announces. -/
def encodedLength? (byte : Nat) : Option Nat :=
  if byte < 0x80 then some 1
  else if byte / 0x20 = 6 then some 2
  else if byte / 0x10 = 14 then some 3
  else if byte / 8 = 30 then some 4
  else none

def percentByte? (i : Input) : Option Nat :=
  match i.peek == '%', Json.Written.hexDigit? (i.peekAt 1), Json.Written.hexDigit? (i.peekAt 2) with
  | true, some a, some b => some (a * 16 + b)
  | _, _, _ => none

/-- The following bytes of a percent-encoded character, put behind its first one. -/
def percentTail? : Nat → Nat → Input → Option (Nat × Input)
  | 0, code, i => some (code, i)
  | count + 1, code, i =>
    match percentByte? i with
    | some byte => if byte / 0x40 = 2 then percentTail? count (code * 0x100 + byte) (i.drop 3) else none
    | none => none

/-- A percent-encoded character; the bytes are taken for the digits of its code point. -/
def percentChar? (i : Input) : Option (Char × Input) := do
  let first ← percentByte? i
  let length ← encodedLength? first
  let (code, after) ← percentTail? (length - 1) first (i.drop 3)
  return (← charOfCode? code, after)

def tagChars? : Nat → List Char → Input → Option (List Char × Input)
  | 0, _, _ => none
  | fuel + 1, chars, i =>
    if i.peek = '%' then
      match percentChar? i with
      | some (c, after) => tagChars? fuel (c :: chars) after
      | none => none
    else if isTagChar i.peek then tagChars? fuel (i.peek :: chars) i.skip
    else some (chars.reverse, i)

/-- The characters of a tag, or an error when there are none. -/
def tagText? (i : Input) : Option (List Char × Input) :=
  match tagChars? (i.rest.length + 1) [] i with
  | some ([], _) => none
  | result => result

/-- A handle: an exclamation mark, word characters and perhaps another exclamation mark. -/
def tagHandle? (i : Input) : Option (List Char × Input) :=
  if i.peek = '!' then
    let word := i.skip.run isWordChar
    let after := i.skip.drop word.length
    if after.peek = '!' then some ('!' :: word ++ ['!'], after.skip) else some ('!' :: word, after)
  else none

/-- A tag: in angle brackets, after a handle, or a word after one exclamation mark. -/
def tagAt? (i : Input) : Option (Tag × Input) :=
  if i.peekAt 1 = '<' then
    match tagText? (i.drop 2) with
    | some (suffix, after) =>
      if after.peek = '>' then some (⟨"", String.ofList suffix⟩, after.skip) else none
    | none => none
  else match tagHandle? i with
    | none => none
    | some (handle, after) =>
      if 2 ≤ handle.length && handle.getLast? == some '!' then
        (tagText? after).map fun (suffix, rest) =>
          (⟨String.ofList handle, String.ofList suffix⟩, rest)
      else
        (tagChars? (after.rest.length + 1) [] after).map fun (chars, rest) =>
          let suffix := handle.drop 1 ++ chars
          if suffix.isEmpty then (⟨"", "!"⟩, rest) else (⟨"!", String.ofList suffix⟩, rest)

def tag? (s : Scanner) : Option Scanner :=
  s.startKey?.bind fun s =>
    match tagAt? s.input with
    | some (tag, after) =>
      if isGap after.peek then
        some (({ s with input := after, keyAllowed := false }).push (.tag tag))
      else none
    | none => none

def blockScalar? (s : Scanner) (literal : Bool) : Option Scanner :=
  s.startKey?.bind fun s =>
    (blockText? literal s.margin s.input.skip).map fun (text, after) =>
      ({ s with input := after, keyAllowed := true }).push (.scalar false (String.ofList text))

def quotedScalar? (s : Scanner) (single : Bool) : Option Scanner :=
  s.startKey?.bind fun s =>
    (quotedText? single (s.input.rest.length + 1) [] s.input.skip).map fun (text, after) =>
      ({ s with input := after, keyAllowed := false, valueIndex := after.index }).push
        (.scalar false (String.ofList text))

def plainScalar? (s : Scanner) : Option Scanner :=
  s.startKey?.bind fun s =>
    (plainText? s.inFlow s.margin (s.input.rest.length + 1) [] {} s.input).map
      fun (text, broken, after) =>
        ({ s with input := after, keyAllowed := broken }).push (.scalar true (String.ofList text))

def versionPart? (i : Input) : Option Input :=
  let digits := i.run Char.isDigit
  if digits.isEmpty || 9 < digits.length then none else some (i.drop digits.length)

/-- The value of a directive with a given name. Directives have no effect beyond having to be well
formed when their name is known. -/
def directiveValue? (name : String) (i : Input) : Option Input :=
  match name with
  | "YAML" => do
    let major ← versionPart? (i.skipWhile isSpace)
    if major.peek = '.' then versionPart? major.skip else none
  | "TAG" => do
    let (handle, after) ← tagHandle? (i.skipWhile isSpace)
    if handle = ['!'] || (2 ≤ handle.length && handle.getLast? == some '!') then
      let (_, rest) ← tagText? (after.skipWhile isSpace)
      if isGap rest.peek then some rest else none
    else none
  | _ => some i.skipLine

def directive? (s : Scanner) : Option Scanner :=
  (s.closeBlocks 0).dropKey?.bind fun s =>
    let named := s.input.skip
    let name := named.run isWordChar
    let after := named.drop name.length
    if name.isEmpty || !isGap after.peek then none
    else ((directiveValue? (String.ofList name) after).bind Input.skipLineEnd?).map fun rest =>
      ({ s with input := rest, keyAllowed := false }).push .directive

def atValue (s : Scanner) : Bool :=
  let next := s.input.peekAt 1
  isGap next || (s.inFlow && (isFlowMark next || s.input.index == s.valueIndex))

def token? (s : Scanner) : Option Scanner :=
  let next := s.input.peekAt 1
  if s.input.column = 0 && s.input.peek = '%' then s.directive?
  else if s.input.atTriple '-' then s.documentMark? .documentStart
  else if s.input.atTriple '.' then s.documentMark? .documentEnd
  else match s.input.peek with
    | '[' => s.flowStart? .flowSequenceStart
    | '{' => s.flowStart? .flowMappingStart
    | ']' => s.flowEnd? .flowSequenceEnd
    | '}' => s.flowEnd? .flowMappingEnd
    | ',' => s.mark? 1 true .flowEntry
    | '-' => if isGap next then s.blockEntry? else s.plainScalar?
    | '?' => if isGap next then s.key? else s.plainScalar?
    | ':' => if s.atValue then s.value? else s.plainScalar?
    | '*' => s.anchor? .alias
    | '&' => s.anchor? .anchor
    | '!' => s.tag?
    | '|' => if s.inFlow then s.plainScalar? else s.blockScalar? true
    | '>' => if s.inFlow then s.plainScalar? else s.blockScalar? false
    | '\'' => s.quotedScalar? true
    | '"' => s.quotedScalar? false
    | '%' | '@' => none
    | c => if c.toNat = 96 then none else s.plainScalar?

def tokens? : Nat → Scanner → Option (List Token)
  | 0, _ => none
  | fuel + 1, s =>
    match (s.skipBlanks (s.input.rest.length + 1)).dropStaleKeys? with
    | none => none
    | some s =>
      let s := s.closeBlocks (s.input.column + 1)
      if s.input.atEnd then (s.closeBlocks 0).dropKey?.map fun s => s.tokens.reverse
      else match s.token? with
        | some next => tokens? fuel next
        | none => none

end Scanner

/-- The tokens of a text; every token but those of block structure takes up a character. -/
def Token.scan? (text : String) : Option (List Token) :=
  let chars := text.toList
  Scanner.tokens? (chars.length + 2) { input := { rest := chars } }

end TemplateAudit.Yaml
