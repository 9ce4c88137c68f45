import TemplateAudit.Unicode.Category
import TemplateAudit.Unicode.Listed

/-!
# Properties that follow from others

Letters, their case, identifiers and the properties of grapheme clusters, put together from general
categories and listed properties by Unicode 16.0.
-/

namespace TemplateAudit.Unicode

set_option autoImplicit false

open Text

def lowercase : RangeSet :=
  category ["Ll"] ∪ otherLowercase

def uppercase : RangeSet :=
  category ["Lu"] ∪ otherUppercase

def titlecase : RangeSet :=
  category ["Lt"]

def alphabetic : RangeSet :=
  .unions [lowercase, uppercase, category ["Lt", "Lm", "Lo", "Nl"], otherAlphabetic]

def cased : RangeSet :=
  .unions [lowercase, uppercase, titlecase]

def mark : RangeSet :=
  category ["Mn", "Mc", "Me"]

/-- What words are made of in patterns. -/
def wordCharacter : RangeSet :=
  .unions [alphabetic, mark, category ["Nd", "Pc"], joinControl]

def asciiHexDigit : RangeSet :=
  hexDigit ∩ .range 0 127

def mathematical : RangeSet :=
  category ["Sm"] ∪ otherMath

/-- Uppercase letters that have no lowercase. -/
def withoutLowercase : RangeSet := .ofRuns
  "978 3 7469 1 4 1 3 3 2 3 2 1 3 5 6 1 3 1 3 2 2 2 1 1 10 2 5 1 111290 26 26 26 26 26 26 1 1 2
    2 1 2 2 2 4 1 8 26 26 26 2 1 4 2 8 1 7 27 2 1 4 1 5 1 1 3 7 27 26 26 26 26 26 26 26 26 26 26
    26 30 25 33 25 33 25 33 25 33 25 33 1 6501 26 6 26 6 26"

/-- Lowercase letters that have no uppercase. -/
def withoutUppercase : RangeSet := .ofRuns
  "170 1 15 1 125 1 84 1 28 2 14 1 3 1 98 1 18 6 27 1 2 1 1 1 2 3 2 1 4 1 5 2 1 1 2 2 1 7 1 2 1
    1 2 3 6 5 1 1 1 8 2 26 7 2 30 5 149 1 129 1 355 1 39 1 2931 1 3075 121 1 3 1 16 1 49 220 2 1
    1 465 1 13 1 16 13 109 1 3 2 3 1 27 1 4 1 4 1 2 2 8 4 2855 1 2 1 2 7 102 1 31159 2 146 2 62
    9 21 1 6 1 25 1 35 1 1 1 28 3 3 3 821 35 1 7 1 14 23574 1 2 3 1 42 1 9 52319 26 26 7 1 18 26
    26 26 4 1 1 1 7 1 11 26 26 26 26 26 26 26 26 26 26 26 26 26 26 26 26 26 28 28 25 1 6 26 25 1
    6 26 25 1 6 26 25 1 6 26 25 1 6 1 1 1844 10 1 20 6 6 261 62"

def changesWhenLowercased : RangeSet :=
  (uppercase ∪ titlecase) \ withoutLowercase

def changesWhenUppercased : RangeSet :=
  (lowercase ∪ titlecase) \ withoutUppercase

/-- Titlecase letters and Georgian ones stay as they are at the start of a title, and the capital
digraphs do not. -/
def changesWhenTitlecased : RangeSet :=
  (changesWhenUppercased ∪ .ofCodes [0x1C4, 0x1C7, 0x1CA, 0x1F1]) \
    .ofRanges [(0x1C5, 0x1C5), (0x1C8, 0x1C8), (0x1CB, 0x1CB), (0x1F2, 0x1F2), (0x10D0, 0x10FA),
      (0x10FD, 0x10FF), (0x1F88, 0x1F8F), (0x1F98, 0x1F9F), (0x1FA8, 0x1FAF), (0x1FBC, 0x1FBC),
      (0x1FCC, 0x1FCC), (0x1FFC, 0x1FFC)]

/-- Cherokee letters fold to the uppercase, and some lowercase forms fold to others. -/
def changesWhenCasefolded : RangeSet :=
  (changesWhenLowercased ∪
    .ofRanges [(0xB5, 0xB5), (0xDF, 0xDF), (0x149, 0x149), (0x17F, 0x17F), (0x345, 0x345),
      (0x3C2, 0x3C2), (0x3D0, 0x3D1), (0x3D5, 0x3D6), (0x3F0, 0x3F1), (0x3F5, 0x3F5),
      (0x587, 0x587), (0x13F8, 0x13FD), (0x1C80, 0x1C88), (0x1E9A, 0x1E9B), (0x1F80, 0x1F87),
      (0x1F90, 0x1F97), (0x1FA0, 0x1FA7), (0x1FB2, 0x1FB4), (0x1FB7, 0x1FB7), (0x1FC2, 0x1FC4),
      (0x1FC7, 0x1FC7), (0x1FF2, 0x1FF4), (0x1FF7, 0x1FF7), (0xAB70, 0xABBF), (0xFB00, 0xFB06),
      (0xFB13, 0xFB17)]) \
    .range 0x13A0 0x13F5

def changesWhenCasemapped : RangeSet :=
  .unions [changesWhenLowercased, changesWhenUppercased, changesWhenTitlecased]

/-- What patterns and programs use as marks. -/
def patternReserved : RangeSet :=
  patternSyntax ∪ patternWhiteSpace

def idStart : RangeSet :=
  (category ["Lu", "Ll", "Lt", "Lm", "Lo", "Nl"] ∪ otherIdStart) \ patternReserved

def idContinue : RangeSet :=
  .unions [idStart, category ["Mn", "Mc", "Nd", "Pc"], otherIdContinue] \ patternReserved

/-- Characters whose normal form does not continue an identifier. -/
def decomposingToBlank : RangeSet :=
  .ofRanges [(0x37A, 0x37A), (0x309B, 0x309C), (0xFC5E, 0xFC63), (0xFDFA, 0xFDFB), (0xFE70, 0xFE70),
    (0xFE72, 0xFE72), (0xFE74, 0xFE74), (0xFE76, 0xFE76), (0xFE78, 0xFE78), (0xFE7A, 0xFE7A),
    (0xFE7C, 0xFE7C), (0xFE7E, 0xFE7E)]

/-- Characters whose normal form continues an identifier and does not start one. -/
def decomposingToMark : RangeSet :=
  .ofRanges [(0xE33, 0xE33), (0xEB3, 0xEB3), (0xFF9E, 0xFF9F)]

def xidContinue : RangeSet :=
  idContinue \ decomposingToBlank

def xidStart : RangeSet :=
  idStart \ (decomposingToBlank ∪ decomposingToMark)

def defaultIgnorable : RangeSet :=
  .unions [otherDefaultIgnorable, category ["Cf"], variationSelector] \
    .unions [whiteSpace, prependedConcatenationMark, .range 0xFFF9 0xFFFB, .range 0x13430 0x13440]

def graphemeExtend : RangeSet :=
  category ["Me", "Mn"] ∪ otherGraphemeExtend

def graphemeBase : RangeSet :=
  (category ["Cc", "Cf", "Co", "Cn", "Zl", "Zp"] ∪ graphemeExtend).compl

end TemplateAudit.Unicode
