import TemplateAudit.Text.Case
import TemplateAudit.Unicode.Age
import TemplateAudit.Unicode.Segmentation

/-!
# Properties by name

The properties of characters that can be named, by Unicode 16.0: those that hold or do not hold, and
those that have a value. Names are compared in lower case and without separators, and a leading
`is` does not count.
-/

namespace TemplateAudit.Unicode

set_option autoImplicit false

open Text

inductive BinaryProperty where
  | asciiHexDigit
  | alphabetic
  | bidiControl
  | bidiMirrored
  | caseIgnorable
  | cased
  | changesWhenCasefolded
  | changesWhenCasemapped
  | changesWhenLowercased
  | changesWhenTitlecased
  | changesWhenUppercased
  | dash
  | defaultIgnorable
  | deprecatedCharacter
  | diacritic
  | emoji
  | emojiComponent
  | emojiModifier
  | emojiModifierBase
  | emojiPresentation
  | extendedPictographic
  | extender
  | graphemeBase
  | graphemeExtend
  | graphemeLink
  | hexDigit
  | hyphen
  | idsBinaryOperator
  | idsTrinaryOperator
  | idsUnaryOperator
  | mathContinue
  | mathStart
  | idContinue
  | idStart
  | ideographic
  | joinControl
  | logicalOrderException
  | lowercase
  | mathematical
  | modifierCombiningMark
  | noncharacter
  | otherAlphabetic
  | otherDefaultIgnorable
  | otherGraphemeExtend
  | otherIdContinue
  | otherIdStart
  | otherLowercase
  | otherMath
  | otherUppercase
  | patternSyntax
  | patternWhiteSpace
  | prependedConcatenationMark
  | quotationMark
  | radical
  | regionalIndicator
  | sentenceTerminal
  | softDotted
  | terminalPunctuation
  | unifiedIdeograph
  | uppercase
  | variationSelector
  | whiteSpace
  | xidContinue
  | xidStart
deriving DecidableEq

def binaryNames : List (List String × BinaryProperty) := [
  (["ahex", "asciihexdigit"], .asciiHexDigit),
  (["alpha", "alphabetic"], .alphabetic),
  (["bidic", "bidicontrol"], .bidiControl),
  (["bidim", "bidimirrored"], .bidiMirrored),
  (["ci", "caseignorable"], .caseIgnorable),
  (["cased"], .cased),
  (["cwcf", "changeswhencasefolded"], .changesWhenCasefolded),
  (["cwcm", "changeswhencasemapped"], .changesWhenCasemapped),
  (["cwl", "changeswhenlowercased"], .changesWhenLowercased),
  (["cwt", "changeswhentitlecased"], .changesWhenTitlecased),
  (["cwu", "changeswhenuppercased"], .changesWhenUppercased),
  (["dash"], .dash),
  (["di", "defaultignorablecodepoint"], .defaultIgnorable),
  (["dep", "deprecated"], .deprecatedCharacter),
  (["dia", "diacritic"], .diacritic),
  (["emoji"], .emoji),
  (["ecomp", "emojicomponent"], .emojiComponent),
  (["emod", "emojimodifier"], .emojiModifier),
  (["ebase", "emojimodifierbase"], .emojiModifierBase),
  (["epres", "emojipresentation"], .emojiPresentation),
  (["extpict", "extendedpictographic"], .extendedPictographic),
  (["ext", "extender"], .extender),
  (["grbase", "graphemebase"], .graphemeBase),
  (["grext", "graphemeextend"], .graphemeExtend),
  (["grlink", "graphemelink"], .graphemeLink),
  (["hex", "hexdigit"], .hexDigit),
  (["hyphen"], .hyphen),
  (["idsb", "idsbinaryoperator"], .idsBinaryOperator),
  (["idst", "idstrinaryoperator"], .idsTrinaryOperator),
  (["idsu", "idsunaryoperator"], .idsUnaryOperator),
  (["idcompatmathcontinue"], .mathContinue),
  (["idcompatmathstart"], .mathStart),
  (["idc", "idcontinue"], .idContinue),
  (["ids", "idstart"], .idStart),
  (["ideo", "ideographic"], .ideographic),
  (["joinc", "joincontrol"], .joinControl),
  (["loe", "logicalorderexception"], .logicalOrderException),
  (["lower", "lowercase"], .lowercase),
  (["math"], .mathematical),
  (["mcm", "modifiercombiningmark"], .modifierCombiningMark),
  (["nchar", "noncharactercodepoint"], .noncharacter),
  (["oalpha", "otheralphabetic"], .otherAlphabetic),
  (["odi", "otherdefaultignorablecodepoint"], .otherDefaultIgnorable),
  (["ogrext", "othergraphemeextend"], .otherGraphemeExtend),
  (["oidc", "otheridcontinue"], .otherIdContinue),
  (["oids", "otheridstart"], .otherIdStart),
  (["olower", "otherlowercase"], .otherLowercase),
  (["omath", "othermath"], .otherMath),
  (["oupper", "otheruppercase"], .otherUppercase),
  (["patsyn", "patternsyntax"], .patternSyntax),
  (["patws", "patternwhitespace"], .patternWhiteSpace),
  (["pcm", "prependedconcatenationmark"], .prependedConcatenationMark),
  (["qmark", "quotationmark"], .quotationMark),
  (["radical"], .radical),
  (["ri", "regionalindicator"], .regionalIndicator),
  (["sterm", "sentenceterminal"], .sentenceTerminal),
  (["sd", "softdotted"], .softDotted),
  (["term", "terminalpunctuation"], .terminalPunctuation),
  (["uideo", "unifiedideograph"], .unifiedIdeograph),
  (["upper", "uppercase"], .uppercase),
  (["vs", "variationselector"], .variationSelector),
  (["space", "wspace", "whitespace"], .whiteSpace),
  (["xidc", "xidcontinue"], .xidContinue),
  (["xids", "xidstart"], .xidStart)]

def BinaryProperty.members : BinaryProperty → RangeSet
  | .asciiHexDigit => Unicode.asciiHexDigit
  | .alphabetic => Unicode.alphabetic
  | .bidiControl => Unicode.bidiControl
  | .bidiMirrored => Unicode.bidiMirrored
  | .caseIgnorable => Unicode.caseIgnorable
  | .cased => Unicode.cased
  | .changesWhenCasefolded => Unicode.changesWhenCasefolded
  | .changesWhenCasemapped => Unicode.changesWhenCasemapped
  | .changesWhenLowercased => Unicode.changesWhenLowercased
  | .changesWhenTitlecased => Unicode.changesWhenTitlecased
  | .changesWhenUppercased => Unicode.changesWhenUppercased
  | .dash => Unicode.dash
  | .defaultIgnorable => Unicode.defaultIgnorable
  | .deprecatedCharacter => Unicode.deprecatedCharacter
  | .diacritic => Unicode.diacritic
  | .emoji => Unicode.emoji
  | .emojiComponent => Unicode.emojiComponent
  | .emojiModifier => Unicode.emojiModifier
  | .emojiModifierBase => Unicode.emojiModifierBase
  | .emojiPresentation => Unicode.emojiPresentation
  | .extendedPictographic => Unicode.extendedPictographic
  | .extender => Unicode.extender
  | .graphemeBase => Unicode.graphemeBase
  | .graphemeExtend => Unicode.graphemeExtend
  | .graphemeLink => Unicode.graphemeLink
  | .hexDigit => Unicode.hexDigit
  | .hyphen => Unicode.hyphen
  | .idsBinaryOperator => Unicode.idsBinaryOperator
  | .idsTrinaryOperator => Unicode.idsTrinaryOperator
  | .idsUnaryOperator => Unicode.idsUnaryOperator
  | .mathContinue => Unicode.mathContinue
  | .mathStart => Unicode.mathStart
  | .idContinue => Unicode.idContinue
  | .idStart => Unicode.idStart
  | .ideographic => Unicode.ideographic
  | .joinControl => Unicode.joinControl
  | .logicalOrderException => Unicode.logicalOrderException
  | .lowercase => Unicode.lowercase
  | .mathematical => Unicode.mathematical
  | .modifierCombiningMark => Unicode.modifierCombiningMark
  | .noncharacter => Unicode.noncharacter
  | .otherAlphabetic => Unicode.otherAlphabetic
  | .otherDefaultIgnorable => Unicode.otherDefaultIgnorable
  | .otherGraphemeExtend => Unicode.otherGraphemeExtend
  | .otherIdContinue => Unicode.otherIdContinue
  | .otherIdStart => Unicode.otherIdStart
  | .otherLowercase => Unicode.otherLowercase
  | .otherMath => Unicode.otherMath
  | .otherUppercase => Unicode.otherUppercase
  | .patternSyntax => Unicode.patternSyntax
  | .patternWhiteSpace => Unicode.patternWhiteSpace
  | .prependedConcatenationMark => Unicode.prependedConcatenationMark
  | .quotationMark => Unicode.quotationMark
  | .radical => Unicode.radical
  | .regionalIndicator => Unicode.regionalIndicator
  | .sentenceTerminal => Unicode.sentenceTerminal
  | .softDotted => Unicode.softDotted
  | .terminalPunctuation => Unicode.terminalPunctuation
  | .unifiedIdeograph => Unicode.unifiedIdeograph
  | .uppercase => Unicode.uppercase
  | .variationSelector => Unicode.variationSelector
  | .whiteSpace => Unicode.whiteSpace
  | .xidContinue => Unicode.xidContinue
  | .xidStart => Unicode.xidStart

def graphemeBreakNames : List (List String × GraphemeBreak) := [
  (["cr"], .cr), (["cn", "control"], .control), (["ex", "extend"], .extend), (["l"], .leading),
  (["lf"], .lf), (["lv"], .syllable), (["lvt"], .closedSyllable), (["pp", "prepend"], .prepend),
  (["ri", "regionalindicator"], .regionalIndicator), (["sm", "spacingmark"], .spacingMark),
  (["t"], .trailing), (["v"], .vowel), (["zwj"], .joiner)]

def wordBreakNames : List (List String × WordBreak) := [
  (["le", "aletter"], .letter), (["cr"], .cr), (["dq", "doublequote"], .doubleQuote),
  (["extend"], .extend), (["ex", "extendnumlet"], .extendNumLet), (["fo", "format"], .format),
  (["hl", "hebrewletter"], .hebrewLetter), (["ka", "katakana"], .katakana), (["lf"], .lf),
  (["ml", "midletter"], .midLetter), (["mn", "midnum"], .midNum), (["mb", "midnumlet"], .midNumLet),
  (["nl", "newline"], .newline), (["nu", "numeric"], .numeric),
  (["ri", "regionalindicator"], .regionalIndicator), (["sq", "singlequote"], .singleQuote),
  (["wsegspace"], .segmentSpace), (["zwj"], .joiner)]

def sentenceBreakNames : List (List String × SentenceBreak) := [
  (["at", "aterm"], .abbreviation), (["cr"], .cr), (["cl", "close"], .close),
  (["ex", "extend"], .extend), (["fo", "format"], .format), (["lf"], .lf), (["lo", "lower"], .lower),
  (["nu", "numeric"], .numeric), (["le", "oletter"], .otherLetter),
  (["sc", "scontinue"], .continuation), (["st", "sterm"], .terminal), (["se", "sep"], .separator),
  (["sp"], .space), (["up", "upper"], .upper)]

def named? {α : Type} (names : List (List String × α)) (name : String) : Option α :=
  (names.find? fun row => row.1.contains name).map (·.2)

/-- A name in lower case, without separators and without the word `is` in front; `isc` is kept, as
it would else be taken for the name of a category. -/
def normalName (name : String) : String :=
  let chars := name.toList
  let (stem, shortened) := match chars with
    | i :: s :: rest =>
      if asciiLower i = 'i' && asciiLower s = 's' then (rest, true) else (chars, false)
    | _ => (chars, false)
  let kept := stem.filter fun c => c ≠ '_' && c ≠ '-' && c ≠ ' ' && c.toNat < 128
  let lower := String.ofList (kept.map asciiLower)
  if shortened && lower = "c" then "isc" else lower

/-- The characters that a name alone stands for: a property, a category or a script. -/
def membersByName? (written : String) : Option RangeSet :=
  let name := normalName written
  match named? binaryNames name with
  | some property => some property.members
  | none => (categoryByName? name).or ((scriptByName? name).map script)

inductive PropertyKind where
  | category
  | script
  | scriptExtensions
  | age
  | graphemeBreak
  | wordBreak
  | sentenceBreak

def kindNames : List (List String × PropertyKind) := [
  (["gc", "generalcategory"], .category), (["sc", "script"], .script),
  (["scx", "scriptextensions"], .scriptExtensions), (["age"], .age),
  (["gcb", "graphemeclusterbreak"], .graphemeBreak), (["wb", "wordbreak"], .wordBreak),
  (["sb", "sentencebreak"], .sentenceBreak)]

def PropertyKind.members? (kind : PropertyKind) (value : String) : Option RangeSet :=
  match kind with
  | .category => categoryByName? value
  | .script => (scriptByName? value).map Unicode.script
  | .scriptExtensions => (scriptByName? value).map scriptUsers
  | .age => ageByName? value
  | .graphemeBreak => (named? graphemeBreakNames value).map GraphemeBreak.members
  | .wordBreak => (named? wordBreakNames value).map WordBreak.members
  | .sentenceBreak => (named? sentenceBreakNames value).map SentenceBreak.members

def membersByValue? (kind value : String) : Option RangeSet :=
  (named? kindNames (normalName kind)).bind fun k => k.members? (normalName value)

end TemplateAudit.Unicode
