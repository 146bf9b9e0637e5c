import Phrasebook.Unicode.Property

/-!
# Word characters

The characters of a word in a pattern: letters, marks, decimal digits, connecting punctuation and the two joiners.
-/

namespace Phrasebook.Unicode

/-- Word characters. -/
def wordRanges : Ranges :=
  .unionAll [Property.alphabetic, Category.mark, Category.decimalNumber, Category.connectorPunctuation,
    Property.joinControl]

/-- Is the character part of a word? -/
def isWordChar (c : Char) : Bool := c.isAlphanum || c == '_' || wordRanges.has c.toNat

/-- Is the character an ASCII character of a word? -/
def isAsciiWordChar (c : Char) : Bool := c.isAlphanum || c == '_'

end Phrasebook.Unicode
