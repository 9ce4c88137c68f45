import TemplateAudit.Text.RangeSet

/-!
# ASCII classes

Digits, blanks and word characters of ASCII, and the classes that are written `[:name:]`.
-/

namespace TemplateAudit.Pattern

set_option autoImplicit false

open Text

def asciiDigit : RangeSet := .range 48 57

def asciiSpace : RangeSet := .ofRanges [(9, 13), (32, 32)]

def asciiWord : RangeSet := .ofRanges [(48, 57), (65, 90), (95, 95), (97, 122)]

/-- The classes that are written `[:name:]`. -/
def asciiClass? : String → Option RangeSet
  | "alnum" => some (.ofRanges [(48, 57), (65, 90), (97, 122)])
  | "alpha" => some (.ofRanges [(65, 90), (97, 122)])
  | "ascii" => some (.range 0 127)
  | "blank" => some (.ofCodes [9, 32])
  | "cntrl" => some (.ofRanges [(0, 31), (127, 127)])
  | "digit" => some asciiDigit
  | "graph" => some (.range 33 126)
  | "lower" => some (.range 97 122)
  | "print" => some (.range 32 126)
  | "punct" => some (.ofRanges [(33, 47), (58, 64), (91, 96), (123, 126)])
  | "space" => some asciiSpace
  | "upper" => some (.range 65 90)
  | "word" => some asciiWord
  | "xdigit" => some (.ofRanges [(48, 57), (65, 70), (97, 102)])
  | _ => none

end TemplateAudit.Pattern
