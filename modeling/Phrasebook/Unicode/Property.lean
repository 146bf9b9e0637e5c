import Phrasebook.Unicode.Category
import Phrasebook.Unicode.PropertyList

/-!
# Properties that follow from others

Letters, case, identifiers, clusters and ignorable characters are defined by categories and a few listed characters. A
property is found by its long or its short name.
-/

namespace Phrasebook.Unicode

namespace Property

/-- Small letters and what else is lower case. -/
def lowercase : Ranges := Category.lowercaseLetter.union otherLowercase

/-- Capital letters and what else is upper case. -/
def uppercase : Ranges := Category.uppercaseLetter.union otherUppercase

/-- All that has a case. -/
def cased : Ranges := .unionAll [lowercase, uppercase, Category.titlecaseLetter]

/-- Letters, letter numbers and the marks that spell with them. -/
def alphabetic : Ranges := .unionAll [lowercase, uppercase, Category.letter, Category.letterNumber, otherAlphabetic]

/-- Mathematical characters. -/
def math : Ranges := Category.mathSymbol.union otherMath

/-- Punctuation inside a word between letters. -/
def midLetter : Ranges := [
  (0x3a, 0x3a), (0xb7, 0xb7), (0x387, 0x387), (0x55f, 0x55f), (0x5f4, 0x5f4), (0x2027, 0x2027), (0xfe13, 0xfe13),
  (0xfe55, 0xfe55), (0xff1a, 0xff1a)]

/-- Punctuation inside a word between letters or between digits. -/
def midNumLet : Ranges := [
  (0x2e, 0x2e), (0x2018, 0x2019), (0x2024, 0x2024), (0xfe52, 0xfe52), (0xff07, 0xff07), (0xff0e, 0xff0e)]

/-- Characters passed over where the case of a neighbour is looked for. -/
def caseIgnorable : Ranges :=
  .unionAll [Category.nonspacingMark, Category.enclosingMark, Category.format, Category.modifierLetter,
    Category.modifierSymbol, midLetter, midNumLet, [(0x27, 0x27)]]

/-- Characters that differ from their lower case. -/
def changesWhenLowercased : Ranges := changesWhenLowercasedStrides.ranges

/-- Characters that differ from their upper case. -/
def changesWhenUppercased : Ranges := changesWhenUppercasedStrides.ranges

/-- Capitals and Georgian letters, which are their own title case and not their own upper case. -/
def titlecaseOnly : Ranges := [
  (0x1c5, 0x1c5), (0x1c8, 0x1c8), (0x1cb, 0x1cb), (0x1f2, 0x1f2), (0x10d0, 0x10fa), (0x10fd, 0x10ff), (0x1f88, 0x1f8f),
  (0x1f98, 0x1f9f), (0x1fa8, 0x1faf), (0x1fbc, 0x1fbc), (0x1fcc, 0x1fcc), (0x1ffc, 0x1ffc)]

/-- Characters that differ from their title case. -/
def changesWhenTitlecased : Ranges :=
  (changesWhenUppercased.diff titlecaseOnly).union [(0x1c4, 0x1c4), (0x1c7, 0x1c7), (0x1ca, 0x1ca), (0x1f1, 0x1f1)]

/-- Characters that are their own lower case and fold to another character. -/
def foldedOnly : Ranges := [
  (0xb5, 0xb5), (0xdf, 0xdf), (0x149, 0x149), (0x17f, 0x17f), (0x345, 0x345), (0x3c2, 0x3c2), (0x3d0, 0x3d1),
  (0x3d5, 0x3d6), (0x3f0, 0x3f1), (0x3f5, 0x3f5), (0x587, 0x587), (0x13f8, 0x13fd), (0x1c80, 0x1c88),
  (0x1e9a, 0x1e9b), (0x1f80, 0x1f87), (0x1f90, 0x1f97), (0x1fa0, 0x1fa7), (0x1fb2, 0x1fb4), (0x1fb7, 0x1fb7),
  (0x1fc2, 0x1fc4), (0x1fc7, 0x1fc7), (0x1ff2, 0x1ff4), (0x1ff7, 0x1ff7), (0xab70, 0xabbf), (0xfb00, 0xfb06),
  (0xfb13, 0xfb17)]

/-- Characters that differ from what they fold to. Cherokee folds to its capitals. -/
def changesWhenCasefolded : Ranges := (changesWhenLowercased.union foldedOnly).diff [(0x13a0, 0x13f5)]

/-- Characters that differ from their lower, upper or title case. -/
def changesWhenCasemapped : Ranges :=
  .unionAll [changesWhenLowercased, changesWhenUppercased, changesWhenTitlecased]

/-- Characters that begin an identifier. -/
def idStart : Ranges :=
  (Ranges.unionAll [Category.letter, Category.letterNumber, otherIdStart]).diff (patternSyntax.union patternWhiteSpace)

/-- Characters that go on an identifier. -/
def idContinue : Ranges :=
  (Ranges.unionAll [idStart, Category.nonspacingMark, Category.spacingMark, Category.decimalNumber,
    Category.connectorPunctuation, otherIdContinue]).diff (patternSyntax.union patternWhiteSpace)

/-- Characters that begin or go on an identifier, while what they decompose to goes not on with one. -/
def decomposedOutside : Ranges := [
  (0x37a, 0x37a), (0x309b, 0x309c), (0xfc5e, 0xfc63), (0xfdfa, 0xfdfb), (0xfe70, 0xfe70), (0xfe72, 0xfe72),
  (0xfe74, 0xfe74), (0xfe76, 0xfe76), (0xfe78, 0xfe78), (0xfe7a, 0xfe7a), (0xfe7c, 0xfe7c), (0xfe7e, 0xfe7e)]

/-- Characters that begin an identifier, decomposed or not. -/
def xidStart : Ranges :=
  idStart.diff (decomposedOutside.union [(0xe33, 0xe33), (0xeb3, 0xeb3), (0xff9e, 0xff9f)])

/-- Characters that go on an identifier, decomposed or not. -/
def xidContinue : Ranges := idContinue.diff decomposedOutside

/-- Code points without a visible form, unless they are shown on purpose. -/
def defaultIgnorable : Ranges :=
  (Ranges.unionAll [otherDefaultIgnorable, Category.format, variationSelector]).diff
    (.unionAll [whiteSpace, [(0xfff9, 0xfffb)], [(0x13430, 0x13440)], prependedConcatenationMark])

/-- Characters that extend the cluster before them. -/
def graphemeExtend : Ranges :=
  .unionAll [Category.enclosingMark, Category.nonspacingMark, otherGraphemeExtend]

/-- Characters that stand by themselves or begin a cluster. -/
def graphemeBase : Ranges :=
  (Ranges.unionAll [Category.control, Category.format, Category.surrogate, Category.privateUse, Category.unassigned,
    Category.lineSeparator, Category.paragraphSeparator, graphemeExtend]).compl

/-- The properties by their names, in lower case and without separators between words. -/
def names : List (List String × Ranges) := [
  (["asciihexdigit", "ahex"], asciiHexDigit), (["alphabetic", "alpha"], alphabetic),
  (["bidicontrol", "bidic"], bidiControl), (["bidimirrored", "bidim"], bidiMirrored),
  (["caseignorable", "ci"], caseIgnorable), (["cased"], cased),
  (["changeswhencasefolded", "cwcf"], changesWhenCasefolded),
  (["changeswhencasemapped", "cwcm"], changesWhenCasemapped),
  (["changeswhenlowercased", "cwl"], changesWhenLowercased),
  (["changeswhentitlecased", "cwt"], changesWhenTitlecased),
  (["changeswhenuppercased", "cwu"], changesWhenUppercased), (["dash"], dash),
  (["defaultignorablecodepoint", "di"], defaultIgnorable), (["deprecated", "dep"], deprecated),
  (["diacritic", "dia"], diacritic), (["emoji"], emoji), (["emojicomponent", "ecomp"], emojiComponent),
  (["emojimodifier", "emod"], emojiModifier), (["emojimodifierbase", "ebase"], emojiModifierBase),
  (["emojipresentation", "epres"], emojiPresentation), (["extendedpictographic", "extpict"], extendedPictographic),
  (["extender", "ext"], extender), (["graphemebase", "grbase"], graphemeBase),
  (["graphemeextend", "grext"], graphemeExtend), (["graphemelink", "grlink"], graphemeLink),
  (["hexdigit", "hex"], hexDigit), (["hyphen"], hyphen), (["idsbinaryoperator", "idsb"], idsBinaryOperator),
  (["idstrinaryoperator", "idst"], idsTrinaryOperator), (["idsunaryoperator", "idsu"], idsUnaryOperator),
  (["idcompatmathcontinue"], idCompatMathContinue), (["idcompatmathstart"], idCompatMathStart),
  (["idcontinue", "idc"], idContinue), (["idstart", "ids"], idStart), (["ideographic", "ideo"], ideographic),
  (["joincontrol", "joinc"], joinControl), (["logicalorderexception", "loe"], logicalOrderException),
  (["lowercase", "lower"], lowercase), (["math"], math), (["modifiercombiningmark", "mcm"], modifierCombiningMark),
  (["noncharactercodepoint", "nchar"], noncharacterCodePoint), (["otheralphabetic", "oalpha"], otherAlphabetic),
  (["otherdefaultignorablecodepoint", "odi"], otherDefaultIgnorable),
  (["othergraphemeextend", "ogrext"], otherGraphemeExtend), (["otheridcontinue", "oidc"], otherIdContinue),
  (["otheridstart", "oids"], otherIdStart), (["otherlowercase", "olower"], otherLowercase),
  (["othermath", "omath"], otherMath), (["otheruppercase", "oupper"], otherUppercase),
  (["patternsyntax", "patsyn"], patternSyntax), (["patternwhitespace", "patws"], patternWhiteSpace),
  (["prependedconcatenationmark", "pcm"], prependedConcatenationMark), (["quotationmark", "qmark"], quotationMark),
  (["radical"], radical), (["regionalindicator", "ri"], regionalIndicator),
  (["sentenceterminal", "sterm"], sentenceTerminal), (["softdotted", "sd"], softDotted),
  (["terminalpunctuation", "term"], terminalPunctuation), (["unifiedideograph", "uideo"], unifiedIdeograph),
  (["uppercase", "upper"], uppercase), (["variationselector", "vs"], variationSelector),
  (["whitespace", "space", "wspace"], whiteSpace), (["xidcontinue", "xidc"], xidContinue),
  (["xidstart", "xids"], xidStart)]

end Property

/-- The characters with the property that has a name. -/
def property? (name : String) : Option Ranges := Ranges.named? Property.names name

end Phrasebook.Unicode
