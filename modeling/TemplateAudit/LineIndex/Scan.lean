import TemplateAudit.Json.Reader
import TemplateAudit.LineIndex.Basic

/-!
# Lines of a text

The lines on which the nodes of a JSON text start, read off the text itself. The scan is about
structure only: brackets, commas, colons and string literals are checked, while any run of other
characters passes for a number or a literal. Containers nest at most 128 deep. Lines are counted in 32
bits, and the items of an array in 32 bits with a sign; both start again behind their last number.
-/

namespace TemplateAudit.LineIndex

set_option autoImplicit false

/-- The rest of a text and the line it starts on. -/
structure Cursor where
  rest : List Char
  line : UInt32

/-- What a scan found: the entries of the nodes it passed, and where it stopped. -/
abbrev Scan := Option (List Entry × Cursor)

def deepest : Nat := 128

def skipBlanks : List Char → UInt32 → Cursor
  | [], line => ⟨[], line⟩
  | c :: rest, line =>
    if c = '\n' then skipBlanks rest (line + 1)
    else if Text.isJsonBlank c then skipBlanks rest line
    else ⟨c :: rest, line⟩

def Cursor.skip (c : Cursor) : Cursor :=
  skipBlanks c.rest c.line

/-- Splits a text after an opening quote at the closing one, which no backslash precedes. -/
def splitLiteral? : List Char → Option (List Char × List Char)
  | [] => none
  | '"' :: rest => some ([], rest)
  | '\\' :: c :: rest => (splitLiteral? rest).map fun (body, after) => ('\\' :: c :: body, after)
  | c :: rest =>
    if c = '\\' then none
    else (splitLiteral? rest).map fun (body, after) => (c :: body, after)

/-- The value of a string literal whose body ends where the literal was split. -/
def decodeBody? (body : List Char) : Option String :=
  match Json.Written.stringUnits? (body ++ ['"']) with
  | some (units, []) => Json.decodeString? units
  | _ => none

def literal? : List Char → Option (String × List Char)
  | '"' :: rest =>
    match splitLiteral? rest with
    | some (body, after) => (decodeBody? body).map fun s => (s, after)
    | none => none
  | _ => none

/-- Whether a character ends a number or a bare word. -/
def endsScalar (c : Char) : Bool :=
  c = ',' || c = '}' || c = ']' || Text.isAsciiBlank c

/-- Passes a number or a bare word, which is not empty. -/
def scalar? (cs : List Char) : Option (List Char) :=
  match cs with
  | [] => none
  | c :: _ => if endsScalar c then none else some (cs.dropWhile fun c => !endsScalar c)

/-- The path of an item under a rendered path, its position as it was counted. -/
def countedItem (path : String) (position : Int32) : String :=
  path ++ "[" ++ toString position ++ "]"

mutual

/-- A value with the rendered path `path`, inside `depth` containers. -/
def scanValue : Nat → String → Nat → Cursor → Scan
  | 0, _, _, _ => none
  | fuel + 1, path, depth, cursor =>
    if deepest < depth then none
    else
      let start := cursor.skip
      match start.rest with
      | '{' :: rest =>
        let inner := skipBlanks rest start.line
        match inner.rest with
        | '}' :: after => some ([], ⟨after, inner.line⟩)
        | _ => scanMembers fuel path depth inner
      | '[' :: rest =>
        let inner := skipBlanks rest start.line
        match inner.rest with
        | ']' :: after => some ([], ⟨after, inner.line⟩)
        | _ => scanItems fuel path depth 0 inner
      | '"' :: _ => (literal? start.rest).map fun (_, after) => ([], ⟨after, start.line⟩)
      | _ => (scalar? start.rest).map fun after => ([], ⟨after, start.line⟩)

def scanMembers : Nat → String → Nat → Cursor → Scan
  | 0, _, _, _ => none
  | fuel + 1, path, depth, cursor =>
    let start := cursor.skip
    match literal? start.rest with
    | none => none
    | some (key, afterKey) =>
      let here := Path.member path key
      let colon := skipBlanks afterKey start.line
      match colon.rest with
      | ':' :: afterColon =>
        match scanValue fuel here (depth + 1) ⟨afterColon, colon.line⟩ with
        | none => none
        | some (entries, afterValue) =>
          let next := afterValue.skip
          match next.rest with
          | ',' :: more =>
            (scanMembers fuel path depth ⟨more, next.line⟩).map fun (others, stop) =>
              ((here, start.line) :: entries ++ others, stop)
          | '}' :: after => some ((here, start.line) :: entries, ⟨after, next.line⟩)
          | _ => none
      | _ => none

def scanItems : Nat → String → Nat → Int32 → Cursor → Scan
  | 0, _, _, _, _ => none
  | fuel + 1, path, depth, position, cursor =>
    let start := cursor.skip
    let here := countedItem path position
    match scanValue fuel here (depth + 1) start with
    | none => none
    | some (entries, afterValue) =>
      let next := afterValue.skip
      match next.rest with
      | ',' :: more =>
        (scanItems fuel path depth (position + 1) ⟨more, next.line⟩).map fun (others, stop) =>
          ((here, start.line) :: entries ++ others, stop)
      | ']' :: after => some ((here, start.line) :: entries, ⟨after, next.line⟩)
      | _ => none

end

/-- A text without the byte order mark that may stand in front of it. -/
def withoutMark : List Char → List Char
  | c :: rest => if c.toNat = 0xFEFF then rest else c :: rest
  | [] => []

/-- The entries of a whole text. Two units of fuel a character are enough, since of any two nested
calls one consumes a character. -/
def scan? (text : List Char) : Option (List Entry) :=
  match scanValue (2 * text.length + 2) "" 0 ⟨text, firstLine⟩ with
  | some (entries, stop) => if stop.skip.rest.isEmpty then some entries else none
  | none => none

/-- The index of a text; `none` when its structure is not that of one JSON value. -/
def ofText? (text : String) : Option LineIndex :=
  (scan? (withoutMark text.toList)).map ofEntries

end TemplateAudit.LineIndex
