import TemplateAudit.Unicode.Derived
import TemplateAudit.Unicode.Script

/-!
# Boundaries in text

The classes of characters that decide where grapheme clusters, words and sentences end, by
Unicode 16.0. Characters outside of all classes have no name here.
-/

namespace TemplateAudit.Unicode

set_option autoImplicit false

open Text

inductive GraphemeBreak where
  | cr
  | control
  | extend
  | leading
  | lf
  | syllable
  | closedSyllable
  | prepend
  | regionalIndicator
  | spacingMark
  | trailing
  | vowel
  | joiner
deriving DecidableEq

inductive WordBreak where
  | letter
  | cr
  | doubleQuote
  | extend
  | extendNumLet
  | format
  | hebrewLetter
  | katakana
  | lf
  | midLetter
  | midNum
  | midNumLet
  | newline
  | numeric
  | regionalIndicator
  | singleQuote
  | segmentSpace
  | joiner
deriving DecidableEq

inductive SentenceBreak where
  | abbreviation
  | cr
  | close
  | extend
  | format
  | lf
  | lower
  | numeric
  | otherLetter
  | continuation
  | terminal
  | separator
  | space
  | upper
deriving DecidableEq

/-- Hangul syllables without a final consonant. -/
def openSyllables : RangeSet :=
  .ofCodes ((List.range 399).map fun i => 0xAC00 + 28 * i)

/-- The tags that spell out flags. -/
def tagCharacters : RangeSet := .range 0xE0020 0xE007F

def zeroWidthJoiner : RangeSet := .single 0x200D

/-- The format characters that the rules for words and sentences pass over. -/
def passiveFormat : RangeSet :=
  category ["Cf"] \
    .unions [.range 0x200B 0x200D, prependedConcatenationMark, tagCharacters]

def GraphemeBreak.members : GraphemeBreak → RangeSet
  | .cr => .single 13
  | .lf => .single 10
  | .control =>
    .unions [category ["Zl", "Zp", "Cc", "Cf"], category ["Cn"] ∩ defaultIgnorable] \
      .unions [.ofCodes [10, 13, 0x200C, 0x200D], prependedConcatenationMark, tagCharacters]
  | .extend => graphemeExtend ∪ emojiModifier
  | .leading => .ofRanges [(0x1100, 0x115F), (0xA960, 0xA97C)]
  | .vowel => .ofRanges [(0x1160, 0x11A7), (0xD7B0, 0xD7C6), (0x16D63, 0x16D63), (0x16D67, 0x16D6A)]
  | .trailing => .ofRanges [(0x11A8, 0x11FF), (0xD7CB, 0xD7FB)]
  | .syllable => openSyllables
  | .closedSyllable => .range 0xAC00 0xD7A3 \ openSyllables
  | .prepend =>
    prependedConcatenationMark ∪
      .ofRanges [(0xD4E, 0xD4E), (0x111C2, 0x111C3), (0x113D1, 0x113D1), (0x1193F, 0x1193F),
        (0x11941, 0x11941), (0x11A3A, 0x11A3A), (0x11A84, 0x11A89), (0x11D46, 0x11D46),
        (0x11F02, 0x11F02)]
  | .regionalIndicator => Unicode.regionalIndicator
  | .spacingMark =>
    (category ["Mc"] ∪ .ofCodes [0xE33, 0xEB3]) \
      .unions [graphemeExtend,
        .ofRanges [(0x102B, 0x102C), (0x1038, 0x1038), (0x1062, 0x1064), (0x1067, 0x106D),
          (0x1083, 0x1083), (0x1087, 0x108C), (0x108F, 0x108F), (0x109A, 0x109C), (0x1A61, 0x1A61),
          (0x1A63, 0x1A64), (0xAA7B, 0xAA7B), (0xAA7D, 0xAA7D), (0x11720, 0x11721)]]
  | .joiner => zeroWidthJoiner

/-- Marks and what else belongs to the character before it. -/
def wordExtend : RangeSet :=
  .unions [graphemeExtend, category ["Mc"], emojiModifier] \ zeroWidthJoiner

def hebrewLetter : RangeSet :=
  script "Hebr" ∩ category ["Lo"]

def katakanaLetter : RangeSet :=
  script "Kana" ∪
    .ofRanges [(0x3031, 0x3035), (0x309B, 0x309C), (0x30A0, 0x30A0), (0x30FC, 0x30FC), (0xFF70, 0xFF70)]

/-- Letters of scripts that do not separate words, which only a dictionary can tell apart. -/
def unspacedLetter : RangeSet :=
  .ofRanges [(0xE01, 0xE30), (0xE32, 0xE33), (0xE40, 0xE46), (0xE81, 0xE82), (0xE84, 0xE84),
    (0xE86, 0xE8A), (0xE8C, 0xEA3), (0xEA5, 0xEA5), (0xEA7, 0xEB0), (0xEB2, 0xEB3), (0xEBD, 0xEBD),
    (0xEC0, 0xEC4), (0xEC6, 0xEC6), (0xEDC, 0xEDF), (0x1000, 0x102A), (0x103F, 0x103F),
    (0x1050, 0x1055), (0x105A, 0x105D), (0x1061, 0x1061), (0x1065, 0x1066), (0x106E, 0x1070),
    (0x1075, 0x1081), (0x108E, 0x108E), (0x1780, 0x17B3), (0x17D7, 0x17D7), (0x17DC, 0x17DC),
    (0x1950, 0x196D), (0x1970, 0x1974), (0x1980, 0x19AB), (0x19B0, 0x19C9), (0x1A20, 0x1A54),
    (0x1AA7, 0x1AA7), (0xA9E0, 0xA9E4), (0xA9E6, 0xA9EF), (0xA9FA, 0xA9FE), (0xAA60, 0xAA76),
    (0xAA7A, 0xAA7A), (0xAA7E, 0xAAAF), (0xAAB1, 0xAAB1), (0xAAB5, 0xAAB6), (0xAAB9, 0xAABD),
    (0xAAC0, 0xAAC0), (0xAAC2, 0xAAC2), (0xAADB, 0xAADD), (0x11700, 0x1171A), (0x11740, 0x11746)]

/-- Signs that count as letters inside of words. -/
def letterlike : RangeSet :=
  .ofRanges [(0x2C2, 0x2C5), (0x2D2, 0x2D7), (0x2DE, 0x2DF), (0x2E5, 0x2EB), (0x2ED, 0x2ED),
    (0x2EF, 0x2FF), (0x55A, 0x55C), (0x55E, 0x55E), (0x58A, 0x58A), (0x5F3, 0x5F3), (0x70F, 0x70F),
    (0xA708, 0xA716), (0xA720, 0xA721), (0xA789, 0xA78A), (0xAB5B, 0xAB5B)]

def wordNumeric : RangeSet :=
  category ["Nd"] ∪
    .ofRanges [(0x600, 0x605), (0x66B, 0x66B), (0x6DD, 0x6DD), (0x890, 0x891), (0x8E2, 0x8E2),
      (0x19DA, 0x19DA), (0x110BD, 0x110BD), (0x110CD, 0x110CD)]

/-- Marks that stand between letters of one word. -/
def midLetter : RangeSet :=
  .ofCodes [0x3A, 0xB7, 0x387, 0x55F, 0x5F4, 0x2027, 0xFE13, 0xFE55, 0xFF1A]

/-- Marks that stand between letters as well as between digits. -/
def midNumLet : RangeSet :=
  .ofCodes [0x2E, 0x2018, 0x2019, 0x2024, 0xFE52, 0xFF07, 0xFF0E]

def WordBreak.members : WordBreak → RangeSet
  | .letter =>
    (alphabetic \
      .unions [ideographic, katakanaLetter, script "Hira", wordExtend, Unicode.hebrewLetter, unspacedLetter]) ∪
      letterlike
  | .cr => .single 13
  | .lf => .single 10
  | .doubleQuote => .single 0x22
  | .singleQuote => .single 0x27
  | .extend => wordExtend
  | .extendNumLet => category ["Pc"] ∪ .single 0x202F
  | .format => passiveFormat
  | .hebrewLetter => Unicode.hebrewLetter
  | .katakana => katakanaLetter
  | .midLetter => Unicode.midLetter
  | .midNum =>
    .ofCodes [0x2C, 0x3B, 0x37E, 0x589, 0x60C, 0x60D, 0x66C, 0x7F8, 0x2044, 0xFE50, 0xFE54, 0xFF0C,
      0xFF1B]
  | .midNumLet => Unicode.midNumLet
  | .newline => .ofCodes [0xB, 0xC, 0x85, 0x2028, 0x2029]
  | .numeric => wordNumeric
  | .regionalIndicator => Unicode.regionalIndicator
  | .segmentSpace =>
    .ofRanges [(0x20, 0x20), (0x1680, 0x1680), (0x2000, 0x2006), (0x2008, 0x200A), (0x205F, 0x205F),
      (0x3000, 0x3000)]
  | .joiner => zeroWidthJoiner

/-- What does not interrupt a word when its case is asked for. -/
def caseIgnorable : RangeSet :=
  .unions [category ["Mn", "Me", "Cf", "Lm", "Sk"], midLetter, midNumLet, .single 0x27]

/-- Georgian letters, whose two cases do not begin sentences. -/
def georgianCased : RangeSet :=
  .ofRanges [(0x10D0, 0x10FA), (0x10FD, 0x10FF), (0x1C90, 0x1CBA), (0x1CBD, 0x1CBF)]

def sentenceExtend : RangeSet :=
  .unions [graphemeExtend, category ["Mc"], zeroWidthJoiner]

def sentenceLower : RangeSet :=
  lowercase \ (graphemeExtend ∪ georgianCased)

def sentenceUpper : RangeSet :=
  (uppercase ∪ titlecase) \ georgianCased

/-- Full stops, which may also end abbreviations. -/
def fullStop : RangeSet :=
  .ofCodes [0x2E, 0x2024, 0xFE52, 0xFF0E]

/-- What ends a line or a paragraph. -/
def lineSeparator : RangeSet :=
  .ofCodes [0x85, 0x2028, 0x2029]

def SentenceBreak.members : SentenceBreak → RangeSet
  | .abbreviation => fullStop
  | .cr => .single 13
  | .lf => .single 10
  | .close =>
    .unions [category ["Ps", "Pe", "Pi", "Pf"], quotationMark,
      .ofRanges [(0x275B, 0x2760), (0x2E00, 0x2E01), (0x2E06, 0x2E08), (0x2E0B, 0x2E0B),
        (0x1F676, 0x1F678)]] \
      .ofCodes [0xFF02, 0xFF07]
  | .extend => sentenceExtend
  | .format => passiveFormat ∪ .ofCodes [0x70F, 0x200B]
  | .lower => sentenceLower
  | .numeric => wordNumeric ∪ .single 0x66C
  | .otherLetter =>
    (alphabetic \ .unions [sentenceLower, sentenceUpper, sentenceExtend]) ∪ .single 0x5F3
  | .continuation =>
    .ofRanges [(0x2C, 0x2D), (0x3A, 0x3B), (0x37E, 0x37E), (0x55D, 0x55D), (0x60C, 0x60D),
      (0x7F8, 0x7F8), (0x1802, 0x1802), (0x1808, 0x1808), (0x2013, 0x2014), (0x3001, 0x3001),
      (0xFE10, 0xFE11), (0xFE13, 0xFE14), (0xFE31, 0xFE32), (0xFE50, 0xFE51), (0xFE54, 0xFE55),
      (0xFE58, 0xFE58), (0xFE63, 0xFE63), (0xFF0C, 0xFF0D), (0xFF1A, 0xFF1B), (0xFF64, 0xFF64)]
  | .terminal => sentenceTerminal \ fullStop
  | .separator => lineSeparator
  | .space => whiteSpace \ (lineSeparator ∪ .ofCodes [10, 13])
  | .upper => sentenceUpper

end TemplateAudit.Unicode
