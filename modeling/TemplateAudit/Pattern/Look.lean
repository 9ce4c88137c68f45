import TemplateAudit.Pattern.AsciiClass
import TemplateAudit.Unicode.Derived

/-!
# Assertions

Assertions about the place between two characters: ends of the text and of lines, and the
boundaries of words.
-/

namespace TemplateAudit.Pattern

set_option autoImplicit false

/-- An assertion about the place between two characters. -/
inductive Look where
  | start
  | stop
  | lineStart
  | lineStop
  /-- Line ends are carriage returns and line feeds. -/
  | lineStartCrlf
  | lineStopCrlf
  | word (unicode : Bool)
  | notWord (unicode : Bool)
  | wordStart (unicode : Bool)
  | wordStop (unicode : Bool)
  | wordStartHalf (unicode : Bool)
  | wordStopHalf (unicode : Bool)
deriving DecidableEq

structure Place where
  before : Option Char
  after : Option Char

def isWord (unicode : Bool) (c : Option Char) : Bool :=
  match c with
  | some c => if unicode then Unicode.wordCharacter.contains c else asciiWord.contains c
  | none => false

def Look.holds (p : Place) : Look → Bool
  | .start => p.before.isNone
  | .stop => p.after.isNone
  | .lineStart => p.before.isNone || p.before == some '\n'
  | .lineStop => p.after.isNone || p.after == some '\n'
  | .lineStartCrlf =>
    p.before.isNone || p.before == some '\n' || (p.before == some '\r' && p.after != some '\n')
  | .lineStopCrlf =>
    p.after.isNone || p.after == some '\r' || (p.after == some '\n' && p.before != some '\r')
  | .word u => isWord u p.before != isWord u p.after
  | .notWord u => isWord u p.before == isWord u p.after
  | .wordStart u => !isWord u p.before && isWord u p.after
  | .wordStop u => isWord u p.before && !isWord u p.after
  | .wordStartHalf u => !isWord u p.before
  | .wordStopHalf u => !isWord u p.after

end TemplateAudit.Pattern
