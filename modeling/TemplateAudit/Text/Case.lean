import TemplateAudit.Text.CaseData

/-!
# Lower case

`lowercase` is the full Unicode mapping of a text: every character on its own, except that a
capital sigma at the end of a word takes its final form. `asciiEq` compares two texts up to the
case of the ASCII letters alone.
-/

namespace TemplateAudit.Text

set_option autoImplicit false

def asciiLower (c : Char) : Char :=
  if 65 ≤ c.toNat && c.toNat ≤ 90 then Char.ofNat (c.toNat + 32) else c

def asciiEq (a b : String) : Bool :=
  a.toList.map asciiLower == b.toList.map asciiLower

def CaseRun.contains (r : CaseRun) (code : Nat) : Bool :=
  decide (r.first ≤ code) && decide (code ≤ r.last) && (code - r.first) % r.step == 0

/-- Lower case of one character out of context. -/
def lowerChar (c : Char) : List Char :=
  if c.toNat < 128 then [asciiLower c]
  else if c.toNat = 0x130 then [Char.ofNat 0x69, Char.ofNat 0x307]
  else if c.toNat = 0x3A3 then [Char.ofNat 0x3C3]
  else match lowercaseRuns.find? (·.contains c.toNat) with
    | some r => [Char.ofNat (Int.ofNat c.toNat + r.shift).toNat]
    | none => [c]

/-- Whether the first character that does not count as an interruption is a letter with case. -/
def startsCased (cs : List Char) : Bool :=
  match cs.dropWhile caseIgnorable.contains with
  | c :: _ => cased.contains c
  | [] => false

/-- Lower case of the characters after `before`, which is given in reverse. -/
def lowerFrom : List Char → List Char → List Char
  | _, [] => []
  | before, c :: rest =>
    let lowered :=
      if c.toNat = 0x3A3 then
        if startsCased before && !startsCased rest then [Char.ofNat 0x3C2] else [Char.ofNat 0x3C3]
      else lowerChar c
    lowered ++ lowerFrom (c :: before) rest

def lowercase (s : String) : String :=
  String.ofList (lowerFrom [] s.toList)

end TemplateAudit.Text
