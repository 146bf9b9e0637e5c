import Phrasebook.Unicode.Property
import Phrasebook.Unicode.Script

/-!
# Where texts may be broken

A character has a value for the breaks between clusters, one for those between words and one for those between
sentences. The values follow from other properties and a few listed characters.
-/

namespace Phrasebook.Unicode

/-! ## Clusters -/

namespace ClusterBreak

/-- Carriage return. -/
def carriageReturn : Ranges := [(0xd, 0xd)]

/-- Line feed. -/
def lineFeed : Ranges := [(0xa, 0xa)]

/-- The joiner of emoji. -/
def joiner : Ranges := [(0x200d, 0x200d)]

/-- Characters that go with the one before them. -/
def extend : Ranges := Property.graphemeExtend.union Property.emojiModifier

/-- Consonants written before what they go with. -/
def prependedConsonant : Ranges := [
  (0xd4e, 0xd4e), (0x111c2, 0x111c3), (0x113d1, 0x113d1), (0x1193f, 0x1193f), (0x11941, 0x11941), (0x11a3a, 0x11a3a),
  (0x11a84, 0x11a89), (0x11d46, 0x11d46), (0x11f02, 0x11f02)]

/-- Characters that go with the one after them. -/
def prepend : Ranges := Property.prependedConcatenationMark.union prependedConsonant

/-- Controls and what has no visible form. -/
def control : Ranges :=
  (Ranges.unionAll [Category.lineSeparator, Category.paragraphSeparator, Category.control, Category.format,
    Category.unassigned.inter Property.defaultIgnorable]).diff
    (.unionAll [carriageReturn, lineFeed, joiner, prepend, extend])

/-- Spacing marks that stand by themselves. -/
def separateMark : Ranges := [
  (0x102b, 0x102c), (0x1038, 0x1038), (0x1062, 0x1064), (0x1067, 0x106d), (0x1083, 0x1083), (0x1087, 0x108c),
  (0x108f, 0x108f), (0x109a, 0x109c), (0x1a61, 0x1a61), (0x1a63, 0x1a64), (0xaa7b, 0xaa7b), (0xaa7d, 0xaa7d),
  (0x11720, 0x11721)]

/-- Spacing marks that go with the character before them. -/
def spacingMark : Ranges :=
  ((Category.spacingMark.diff extend).diff separateMark).union [(0xe33, 0xe33), (0xeb3, 0xeb3)]

/-- The first and the last Hangul syllable. -/
def syllables : Ranges := [(0xac00, 0xd7a3)]

/-- Hangul syllables without a final consonant; of every 28 the first. -/
def openSyllables : Strides := [⟨0xac00, 0xd788, 28⟩]

/-- The values by their names. -/
def names : List (List String × Ranges) := [
  (["control", "cn"], control), (["cr"], carriageReturn), (["extend", "ex"], extend),
  (["l"], [(0x1100, 0x115f), (0xa960, 0xa97c)]), (["lf"], lineFeed), (["lv"], openSyllables.ranges),
  (["lvt"], syllables.diff openSyllables.ranges), (["prepend", "pp"], prepend),
  (["regionalindicator", "ri"], Property.regionalIndicator), (["spacingmark", "sm"], spacingMark),
  (["t"], [(0x11a8, 0x11ff), (0xd7cb, 0xd7fb)]),
  (["v"], [(0x1160, 0x11a7), (0xd7b0, 0xd7c6), (0x16d63, 0x16d63), (0x16d67, 0x16d6a)]), (["zwj"], joiner)]

end ClusterBreak

/-- The characters with the cluster break that has a name. -/
def clusterBreak? (name : String) : Option Ranges := Ranges.named? ClusterBreak.names name

/-! ## Words -/

namespace WordBreak

/-- Characters that go with the one before them. -/
def extend : Ranges :=
  (Ranges.unionAll [Property.graphemeExtend, Category.spacingMark, Property.emojiModifier]).diff ClusterBreak.joiner

/-- Format characters that belong to numbers, and one that belongs to words. -/
def visibleFormat : Ranges := [
  (0x600, 0x605), (0x6dd, 0x6dd), (0x70f, 0x70f), (0x890, 0x891), (0x8e2, 0x8e2), (0x110bd, 0x110bd),
  (0x110cd, 0x110cd)]

/-- Format characters. -/
def format : Ranges :=
  (Category.format.diff extend).diff (visibleFormat.union [(0x200b, 0x200d)])

/-- Katakana. -/
def katakana : Ranges :=
  Script.katakana.union [(0x3031, 0x3035), (0x309b, 0x309c), (0x30a0, 0x30a0), (0x30fc, 0x30fc), (0xff70, 0xff70)]

/-- Hebrew letters. -/
def hebrewLetter : Ranges := Script.hebrew.inter Category.otherLetter

/-- Letters of writing without spaces between words. -/
def unspacedLetter : Ranges := [
  (0xe01, 0xe30), (0xe32, 0xe33), (0xe40, 0xe46), (0xe81, 0xe82), (0xe84, 0xe84), (0xe86, 0xe8a), (0xe8c, 0xea3),
  (0xea5, 0xea5), (0xea7, 0xeb0), (0xeb2, 0xeb3), (0xebd, 0xebd), (0xec0, 0xec4), (0xec6, 0xec6), (0xedc, 0xedf),
  (0x1000, 0x102a), (0x103f, 0x103f), (0x1050, 0x1055), (0x105a, 0x105d), (0x1061, 0x1061), (0x1065, 0x1066),
  (0x106e, 0x1070), (0x1075, 0x1081), (0x108e, 0x108e), (0x1780, 0x17b3), (0x17d7, 0x17d7), (0x17dc, 0x17dc),
  (0x1950, 0x196d), (0x1970, 0x1974), (0x1980, 0x19ab), (0x19b0, 0x19c9), (0x1a20, 0x1a54), (0x1aa7, 0x1aa7),
  (0xa9e0, 0xa9e4), (0xa9e6, 0xa9ef), (0xa9fa, 0xa9fe), (0xaa60, 0xaa76), (0xaa7a, 0xaa7a), (0xaa7e, 0xaaaf),
  (0xaab1, 0xaab1), (0xaab5, 0xaab6), (0xaab9, 0xaabd), (0xaac0, 0xaac0), (0xaac2, 0xaac2), (0xaadb, 0xaadd),
  (0x11700, 0x1171a), (0x11740, 0x11746)]

/-- Characters that count as letters in a word though they are none. -/
def letterLike : Ranges := [
  (0x2c2, 0x2c5), (0x2d2, 0x2d7), (0x2de, 0x2df), (0x2e5, 0x2eb), (0x2ed, 0x2ed), (0x2ef, 0x2ff), (0x55a, 0x55c),
  (0x55e, 0x55e), (0x58a, 0x58a), (0x5f3, 0x5f3), (0x70f, 0x70f), (0xa708, 0xa716), (0xa720, 0xa721),
  (0xa789, 0xa78a), (0xab5b, 0xab5b)]

/-- Letters of words. -/
def letter : Ranges :=
  (Property.alphabetic.diff (.unionAll [Property.ideographic, katakana, Script.hiragana, extend, hebrewLetter,
    unspacedLetter])).union letterLike

/-- Digits. -/
def numeric : Ranges := .unionAll [Category.decimalNumber, visibleFormat.diff [(0x70f, 0x70f)], [(0x66b, 0x66b)],
  [(0x19da, 0x19da)]]

/-- Punctuation inside a number. -/
def midNum : Ranges := [
  (0x2c, 0x2c), (0x3b, 0x3b), (0x37e, 0x37e), (0x589, 0x589), (0x60c, 0x60d), (0x66c, 0x66c), (0x7f8, 0x7f8),
  (0x2044, 0x2044), (0xfe50, 0xfe50), (0xfe54, 0xfe54), (0xff0c, 0xff0c), (0xff1b, 0xff1b)]

/-- The values by their names. -/
def names : List (List String × Ranges) := [
  (["aletter", "le"], letter), (["cr"], ClusterBreak.carriageReturn), (["doublequote", "dq"], [(0x22, 0x22)]),
  (["extend"], extend), (["extendnumlet", "ex"], Category.connectorPunctuation.union [(0x202f, 0x202f)]),
  (["format", "fo"], format), (["hebrewletter", "hl"], hebrewLetter), (["katakana", "ka"], katakana),
  (["lf"], ClusterBreak.lineFeed), (["midletter", "ml"], Property.midLetter), (["midnum", "mn"], midNum),
  (["midnumlet", "mb"], Property.midNumLet), (["newline", "nl"], [(0xb, 0xc), (0x85, 0x85), (0x2028, 0x2029)]),
  (["numeric", "nu"], numeric), (["regionalindicator", "ri"], Property.regionalIndicator),
  (["singlequote", "sq"], [(0x27, 0x27)]),
  (["wsegspace"], [(0x20, 0x20), (0x1680, 0x1680), (0x2000, 0x2006), (0x2008, 0x200a), (0x205f, 0x205f),
    (0x3000, 0x3000)]),
  (["zwj"], ClusterBreak.joiner)]

end WordBreak

/-- The characters with the word break that has a name. -/
def wordBreak? (name : String) : Option Ranges := Ranges.named? WordBreak.names name

/-! ## Sentences -/

namespace SentenceBreak

/-- Characters that go with the one before them. -/
def extend : Ranges :=
  .unionAll [Property.graphemeExtend, Category.spacingMark, ClusterBreak.joiner]

/-- Format characters that belong to numbers. -/
def numericFormat : Ranges := WordBreak.visibleFormat.diff [(0x70f, 0x70f)]

/-- Georgian capitals of the kind that begins no sentence. -/
def georgianCapital : Ranges := [(0x1c90, 0x1cba), (0x1cbd, 0x1cbf)]

/-- Lower case characters. Georgian letters are none here. -/
def lower : Ranges := (Property.lowercase.diff extend).diff [(0x10d0, 0x10fa), (0x10fd, 0x10ff)]

/-- Upper case characters. -/
def upper : Ranges := (Category.titlecaseLetter.union Property.uppercase).diff georgianCapital

/-- Other letters. -/
def otherLetter : Ranges :=
  (Property.alphabetic.diff (.unionAll [lower, upper, extend])).union [(0x5f3, 0x5f3)]

/-- Digits. -/
def numeric : Ranges := WordBreak.numeric.union [(0x66c, 0x66c)]

/-- Brackets and quotation marks. -/
def close : Ranges :=
  (Ranges.unionAll [Category.openPunctuation, Category.closePunctuation, Category.initialPunctuation,
    Category.finalPunctuation, Property.quotationMark, [(0x275b, 0x2760)], [(0x2e00, 0x2e01)], [(0x2e06, 0x2e08)],
    [(0x2e0b, 0x2e0b)], [(0x1f676, 0x1f678)]]).diff [(0xff02, 0xff02), (0xff07, 0xff07)]

/-- Full stops that may also stand in a number or a name. -/
def fullStop : Ranges := [(0x2e, 0x2e), (0x2024, 0x2024), (0xfe52, 0xfe52), (0xff0e, 0xff0e)]

/-- Punctuation after which a sentence goes on. -/
def continuing : Ranges := [
  (0x2c, 0x2d), (0x3a, 0x3b), (0x37e, 0x37e), (0x55d, 0x55d), (0x60c, 0x60d), (0x7f8, 0x7f8), (0x1802, 0x1802),
  (0x1808, 0x1808), (0x2013, 0x2014), (0x3001, 0x3001), (0xfe10, 0xfe11), (0xfe13, 0xfe14), (0xfe31, 0xfe32),
  (0xfe50, 0xfe51), (0xfe54, 0xfe55), (0xfe58, 0xfe58), (0xfe63, 0xfe63), (0xff0c, 0xff0d), (0xff1a, 0xff1b),
  (0xff64, 0xff64)]

/-- Separators of lines. -/
def separator : Ranges := [(0x85, 0x85), (0x2028, 0x2029)]

/-- The values by their names. -/
def names : List (List String × Ranges) := [
  (["aterm", "at"], fullStop), (["close", "cl"], close), (["cr"], ClusterBreak.carriageReturn),
  (["extend", "ex"], extend), (["format", "fo"], (Category.format.diff extend).diff numericFormat),
  (["lf"], ClusterBreak.lineFeed), (["lower", "lo"], lower), (["numeric", "nu"], numeric),
  (["oletter", "le"], otherLetter), (["scontinue", "sc"], continuing), (["sep", "se"], separator),
  (["sp"], Property.whiteSpace.diff (.unionAll [ClusterBreak.carriageReturn, ClusterBreak.lineFeed, separator])),
  (["sterm", "st"], Property.sentenceTerminal.diff fullStop), (["upper", "up"], upper)]

end SentenceBreak

/-- The characters with the sentence break that has a name. -/
def sentenceBreak? (name : String) : Option Ranges := Ranges.named? SentenceBreak.names name

end Phrasebook.Unicode
