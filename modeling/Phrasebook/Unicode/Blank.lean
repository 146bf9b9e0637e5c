import Phrasebook.Unicode.Ranges

/-!
# White space

The 25 characters with the property White_Space. They separate the tokens of a message argument and of a descriptor,
and are cut from the ends of a text before it is read as a number.
-/

namespace Phrasebook.Unicode

/-- White space beyond ASCII. -/
def blankRanges : Ranges := [
  (0x85, 0x85), (0xa0, 0xa0), (0x1680, 0x1680), (0x2000, 0x200a), (0x2028, 0x2029), (0x202f, 0x202f),
  (0x205f, 0x205f), (0x3000, 0x3000)]

/-- Is the character white space: tab to carriage return, the space, or one of the blanks beyond ASCII? -/
def isBlank (c : Char) : Bool :=
  (9 ≤ c.toNat && c.toNat ≤ 13) || c == ' ' || blankRanges.has c.toNat

end Phrasebook.Unicode
