import RelGraph.Unicode.Base
import RelGraph.Unicode.Break
import RelGraph.Unicode.GeneralCategory

/-! The yes-or-no properties of code points, as of version 16.0 of the character database: their
names and their members. Most of them follow by a rule from categories and from the lists of
`Unicode.Base`. -/

namespace RelGraph.Unicode

/-- A yes-or-no property of code points. -/
inductive Property
  | alphabetic | asciiHexDigit | bidiControl | bidiMirrored | caseIgnorable | cased
  | changesWhenCasefolded | changesWhenCasemapped | changesWhenLowercased | changesWhenTitlecased
  | changesWhenUppercased | dash | defaultIgnorableCodePoint | deprecated | diacritic | emoji
  | emojiComponent | emojiModifier | emojiModifierBase | emojiPresentation | extendedPictographic
  | extender | graphemeBase | graphemeExtend | graphemeLink | hexDigit | hyphen
  | idCompatMathContinue | idCompatMathStart | idContinue | idStart | ideographic
  | idsBinaryOperator | idsTrinaryOperator | idsUnaryOperator | joinControl
  | logicalOrderException | lowercase | math | modifierCombiningMark | noncharacterCodePoint
  | otherAlphabetic | otherDefaultIgnorableCodePoint | otherGraphemeExtend | otherIdContinue
  | otherIdStart | otherLowercase | otherMath | otherUppercase | patternSyntax
  | patternWhiteSpace | prependedConcatenationMark | quotationMark | radical
  | regionalIndicator | sentenceTerminal | softDotted | terminalPunctuation | unifiedIdeograph
  | uppercase | variationSelector | whiteSpace | xidContinue | xidStart
  deriving DecidableEq, Repr

namespace Property

/-- The names of the properties in small letters and without anything between the words. -/
def names : List (String × Property) :=
  [("ahex", .asciiHexDigit), ("alpha", .alphabetic), ("alphabetic", .alphabetic),
   ("asciihexdigit", .asciiHexDigit), ("bidic", .bidiControl), ("bidicontrol", .bidiControl),
   ("bidim", .bidiMirrored), ("bidimirrored", .bidiMirrored), ("cased", .cased),
   ("caseignorable", .caseIgnorable), ("changeswhencasefolded", .changesWhenCasefolded),
   ("changeswhencasemapped", .changesWhenCasemapped),
   ("changeswhenlowercased", .changesWhenLowercased),
   ("changeswhentitlecased", .changesWhenTitlecased),
   ("changeswhenuppercased", .changesWhenUppercased), ("ci", .caseIgnorable),
   ("cwcf", .changesWhenCasefolded), ("cwcm", .changesWhenCasemapped),
   ("cwl", .changesWhenLowercased), ("cwt", .changesWhenTitlecased),
   ("cwu", .changesWhenUppercased), ("dash", .dash),
   ("defaultignorablecodepoint", .defaultIgnorableCodePoint), ("dep", .deprecated),
   ("deprecated", .deprecated), ("di", .defaultIgnorableCodePoint), ("dia", .diacritic),
   ("diacritic", .diacritic), ("ebase", .emojiModifierBase), ("ecomp", .emojiComponent),
   ("emod", .emojiModifier), ("emoji", .emoji), ("emojicomponent", .emojiComponent),
   ("emojimodifier", .emojiModifier), ("emojimodifierbase", .emojiModifierBase),
   ("emojipresentation", .emojiPresentation), ("epres", .emojiPresentation), ("ext", .extender),
   ("extendedpictographic", .extendedPictographic), ("extender", .extender),
   ("extpict", .extendedPictographic), ("graphemebase", .graphemeBase),
   ("graphemeextend", .graphemeExtend), ("graphemelink", .graphemeLink),
   ("grbase", .graphemeBase), ("grext", .graphemeExtend), ("grlink", .graphemeLink),
   ("hex", .hexDigit), ("hexdigit", .hexDigit), ("hyphen", .hyphen), ("idc", .idContinue),
   ("idcompatmathcontinue", .idCompatMathContinue), ("idcompatmathstart", .idCompatMathStart),
   ("idcontinue", .idContinue), ("ideo", .ideographic), ("ideographic", .ideographic),
   ("ids", .idStart), ("idsb", .idsBinaryOperator), ("idsbinaryoperator", .idsBinaryOperator),
   ("idst", .idsTrinaryOperator), ("idstart", .idStart),
   ("idstrinaryoperator", .idsTrinaryOperator), ("idsu", .idsUnaryOperator),
   ("idsunaryoperator", .idsUnaryOperator), ("joinc", .joinControl),
   ("joincontrol", .joinControl), ("loe", .logicalOrderException),
   ("logicalorderexception", .logicalOrderException), ("lower", .lowercase),
   ("lowercase", .lowercase), ("math", .math), ("mcm", .modifierCombiningMark),
   ("modifiercombiningmark", .modifierCombiningMark), ("nchar", .noncharacterCodePoint),
   ("noncharactercodepoint", .noncharacterCodePoint), ("oalpha", .otherAlphabetic),
   ("odi", .otherDefaultIgnorableCodePoint), ("ogrext", .otherGraphemeExtend),
   ("oidc", .otherIdContinue), ("oids", .otherIdStart), ("olower", .otherLowercase),
   ("omath", .otherMath), ("otheralphabetic", .otherAlphabetic),
   ("otherdefaultignorablecodepoint", .otherDefaultIgnorableCodePoint),
   ("othergraphemeextend", .otherGraphemeExtend), ("otheridcontinue", .otherIdContinue),
   ("otheridstart", .otherIdStart), ("otherlowercase", .otherLowercase),
   ("othermath", .otherMath), ("otheruppercase", .otherUppercase), ("oupper", .otherUppercase),
   ("patsyn", .patternSyntax), ("patternsyntax", .patternSyntax),
   ("patternwhitespace", .patternWhiteSpace), ("patws", .patternWhiteSpace),
   ("pcm", .prependedConcatenationMark),
   ("prependedconcatenationmark", .prependedConcatenationMark), ("qmark", .quotationMark),
   ("quotationmark", .quotationMark), ("radical", .radical),
   ("regionalindicator", .regionalIndicator), ("ri", .regionalIndicator), ("sd", .softDotted),
   ("sentenceterminal", .sentenceTerminal), ("softdotted", .softDotted), ("space", .whiteSpace),
   ("sterm", .sentenceTerminal), ("term", .terminalPunctuation),
   ("terminalpunctuation", .terminalPunctuation), ("uideo", .unifiedIdeograph),
   ("unifiedideograph", .unifiedIdeograph), ("upper", .uppercase), ("uppercase", .uppercase),
   ("variationselector", .variationSelector), ("vs", .variationSelector),
   ("whitespace", .whiteSpace), ("wspace", .whiteSpace), ("xidc", .xidContinue),
   ("xidcontinue", .xidContinue), ("xids", .xidStart), ("xidstart", .xidStart)]

def named? (name : String) : Option Property := (names.find? (·.1 == name)).map Prod.snd

/-- The union of several sets. -/
def anyOf (sets : List CodeSet) : CodeSet := .ofStretches sets.flatten

/-- Letters, numerals made of letters, and what else counts as alphabetic. -/
def alphabeticSet : CodeSet := anyOf [categorySet "l", categorySet "nl", Base.otherAlphabetic]

def lowercaseSet : CodeSet := (categorySet "ll").union Base.otherLowercase

def uppercaseSet : CodeSet := (categorySet "lu").union Base.otherUppercase

/-- Signs that a syntax keeps for itself. -/
def reserved : CodeSet := Base.patternSyntax.union Base.patternWhiteSpace

def idStartSet : CodeSet :=
  (anyOf [categorySet "l", categorySet "nl", Base.otherIdStart]).diff reserved

def idContinueSet : CodeSet :=
  (anyOf [idStartSet, categorySet "mn", categorySet "mc", categorySet "nd", categorySet "pc",
    Base.otherIdContinue]).diff reserved

/-- Characters whose compatibility forms would not be identifiers any more. -/
def notClosedUnderCompatibility : CodeSet :=
  [⟨0x37a, 0x37a⟩, ⟨0x309b, 0x309c⟩, ⟨0xfc5e, 0xfc63⟩, ⟨0xfdfa, 0xfdfb⟩, ⟨0xfe70, 0xfe70⟩,
   ⟨0xfe72, 0xfe72⟩, ⟨0xfe74, 0xfe74⟩, ⟨0xfe76, 0xfe76⟩, ⟨0xfe78, 0xfe78⟩, ⟨0xfe7a, 0xfe7a⟩,
   ⟨0xfe7c, 0xfe7c⟩, ⟨0xfe7e, 0xfe7e⟩]

/-- Letters whose compatibility forms start with a mark. -/
def notStartingCompatibly : CodeSet := [⟨0xe33, 0xe33⟩, ⟨0xeb3, 0xeb3⟩, ⟨0xff9e, 0xff9f⟩]

def graphemeExtendSet : CodeSet :=
  anyOf [categorySet "me", categorySet "mn", Base.otherGraphemeExtend]

/-- Uppercase and titlecase characters that have a lowercase form. -/
def changesWhenLowercasedSet : CodeSet :=
  (uppercaseSet.union (categorySet "lt")).diff Base.unpairedUppercase

/-- Lowercase and titlecase characters that have an uppercase form. -/
def changesWhenUppercasedSet : CodeSet :=
  (lowercaseSet.union (categorySet "lt")).diff Base.unpairedLowercase

/-- As for uppercase, but titlecase characters stay, four capital digraphs change, and the letters
of Georgian have no titlecase. -/
def changesWhenTitlecasedSet : CodeSet :=
  anyOf [(changesWhenUppercasedSet.diff (categorySet "lt")).diff
      [⟨0x10d0, 0x10fa⟩, ⟨0x10fd, 0x10ff⟩],
    [⟨0x1c4, 0x1c4⟩, ⟨0x1c7, 0x1c7⟩, ⟨0x1ca, 0x1ca⟩, ⟨0x1f1, 0x1f1⟩]]

/-- As for lowercase, but Cherokee folds to its capitals, and some lowercase characters fold to
others. -/
def changesWhenCasefoldedSet : CodeSet :=
  anyOf [changesWhenLowercasedSet.diff [⟨0x13a0, 0x13f5⟩],
    [⟨0xb5, 0xb5⟩, ⟨0xdf, 0xdf⟩, ⟨0x149, 0x149⟩, ⟨0x17f, 0x17f⟩, ⟨0x345, 0x345⟩, ⟨0x3c2, 0x3c2⟩,
     ⟨0x3d0, 0x3d1⟩, ⟨0x3d5, 0x3d6⟩, ⟨0x3f0, 0x3f1⟩, ⟨0x3f5, 0x3f5⟩, ⟨0x587, 0x587⟩,
     ⟨0x13f8, 0x13fd⟩, ⟨0x1c80, 0x1c88⟩, ⟨0x1e9a, 0x1e9b⟩, ⟨0x1f80, 0x1f87⟩, ⟨0x1f90, 0x1f97⟩,
     ⟨0x1fa0, 0x1fa7⟩, ⟨0x1fb2, 0x1fb4⟩, ⟨0x1fb7, 0x1fb7⟩, ⟨0x1fc2, 0x1fc4⟩, ⟨0x1fc7, 0x1fc7⟩,
     ⟨0x1ff2, 0x1ff4⟩, ⟨0x1ff7, 0x1ff7⟩, ⟨0xab70, 0xabbf⟩, ⟨0xfb00, 0xfb06⟩, ⟨0xfb13, 0xfb17⟩]]

/-- Format characters that are shown: blanks, annotations, and signs that stand under others. -/
def shownFormats : CodeSet :=
  anyOf [Base.whiteSpace, [⟨0xfff9, 0xfffb⟩], [⟨0x13430, 0x1343f⟩],
    Base.prependedConcatenationMark]

/-- The code points with a property. -/
def members : Property → CodeSet
  | alphabetic => alphabeticSet
  | asciiHexDigit => Base.asciiHexDigit
  | bidiControl => Base.bidiControl
  | bidiMirrored => Base.bidiMirrored
  | caseIgnorable =>
    anyOf [categorySet "mn", categorySet "me", categorySet "cf", categorySet "lm",
      categorySet "sk", wordBreakSet "ml", wordBreakSet "mb", wordBreakSet "sq"]
  | cased => anyOf [lowercaseSet, uppercaseSet, categorySet "lt"]
  | changesWhenCasefolded => changesWhenCasefoldedSet
  | changesWhenCasemapped =>
    anyOf [changesWhenLowercasedSet, changesWhenUppercasedSet, changesWhenTitlecasedSet]
  | changesWhenLowercased => changesWhenLowercasedSet
  | changesWhenTitlecased => changesWhenTitlecasedSet
  | changesWhenUppercased => changesWhenUppercasedSet
  | dash => Base.dash
  | defaultIgnorableCodePoint =>
    (anyOf [Base.otherDefaultIgnorableCodePoint, categorySet "cf", Base.variationSelector]).diff
      shownFormats
  | deprecated => Base.deprecated
  | diacritic => Base.diacritic
  | emoji => Base.emoji
  | emojiComponent => Base.emojiComponent
  | emojiModifier => Base.emojiModifier
  | emojiModifierBase => Base.emojiModifierBase
  | emojiPresentation => Base.emojiPresentation
  | extendedPictographic => Base.extendedPictographic
  | extender => Base.extender
  | graphemeBase =>
    (anyOf [categorySet "c", categorySet "zl", categorySet "zp", graphemeExtendSet]).compl
  | graphemeExtend => graphemeExtendSet
  | graphemeLink => Base.graphemeLink
  | hexDigit => Base.hexDigit
  | hyphen => Base.hyphen
  | idCompatMathContinue => Base.idCompatMathContinue
  | idCompatMathStart => Base.idCompatMathStart
  | idContinue => idContinueSet
  | idStart => idStartSet
  | ideographic => Base.ideographic
  | idsBinaryOperator => Base.idsBinaryOperator
  | idsTrinaryOperator => Base.idsTrinaryOperator
  | idsUnaryOperator => Base.idsUnaryOperator
  | joinControl => Base.joinControl
  | logicalOrderException => Base.logicalOrderException
  | lowercase => lowercaseSet
  | math => (categorySet "sm").union Base.otherMath
  | modifierCombiningMark => Base.modifierCombiningMark
  | noncharacterCodePoint => Base.noncharacterCodePoint
  | otherAlphabetic => Base.otherAlphabetic
  | otherDefaultIgnorableCodePoint => Base.otherDefaultIgnorableCodePoint
  | otherGraphemeExtend => Base.otherGraphemeExtend
  | otherIdContinue => Base.otherIdContinue
  | otherIdStart => Base.otherIdStart
  | otherLowercase => Base.otherLowercase
  | otherMath => Base.otherMath
  | otherUppercase => Base.otherUppercase
  | patternSyntax => Base.patternSyntax
  | patternWhiteSpace => Base.patternWhiteSpace
  | prependedConcatenationMark => Base.prependedConcatenationMark
  | quotationMark => Base.quotationMark
  | radical => Base.radical
  | regionalIndicator => Base.regionalIndicator
  | sentenceTerminal => Base.sentenceTerminal
  | softDotted => Base.softDotted
  | terminalPunctuation => Base.terminalPunctuation
  | unifiedIdeograph => Base.unifiedIdeograph
  | uppercase => uppercaseSet
  | variationSelector => Base.variationSelector
  | whiteSpace => Base.whiteSpace
  | xidContinue => idContinueSet.diff notClosedUnderCompatibility
  | xidStart => (idStartSet.diff notClosedUnderCompatibility).diff notStartingCompatibly

end Property

/-- The characters of words: alphabetic ones, marks, decimal digits, connectors and joiners. -/
def wordSet : CodeSet :=
  Property.anyOf [Property.alphabeticSet, categorySet "m", categorySet "nd", categorySet "pc",
    Base.joinControl]

end RelGraph.Unicode
