import Phrasebook.Unicode.Ranges

/-!
# Ranges of encoded characters

The encodings in UTF-8 of a range of characters are described byte by byte. The range is cut where the length of the
encodings changes, and where a byte could take a part of its values only although a byte before it varies. The encodings
of a piece are then all those whose first byte is in one range, whose second byte is in another, and so on.
-/

namespace Phrasebook.Unicode

/-- A range of values for each byte of an encoding. -/
abbrev ByteRanges := List (Nat × Nat)

/-- The bytes of a character. -/
def bytesOf (n : Nat) : List Nat := (String.utf8EncodeChar (Char.ofNat n)).map UInt8.toNat

/-- The code point after which a range is cut so that it lies in one block of the given size or fills its blocks. -/
def cutAtBlock? (first last block : Nat) : Option Nat :=
  if first / block = last / block then none
  else if first % block ≠ 0 then some (first / block * block + (block - 1))
  else if last % block ≠ block - 1 then some (last / block * block - 1)
  else none

/-- The code points after which a range may be cut, those at a change of length first. -/
def cuts (first last : Nat) : List Nat :=
  [0x7f, 0x7ff, 0xffff] ++ if last ≤ 0x7f then [] else [64, 4096, 262144].filterMap (cutAtBlock? first last)

/-- The code point after which a range is cut first. -/
def cutAfter? (first last : Nat) : Option { m : Nat // first ≤ m ∧ m < last } :=
  (cuts first last).findSome? fun m => if h : first ≤ m ∧ m < last then some ⟨m, h⟩ else none

/-- The encodings of a range of characters without surrogates. -/
def encodingsBetween (first last : Nat) : List ByteRanges :=
  match cutAfter? first last with
  | none => [(bytesOf first).zip (bytesOf last)]
  | some m => encodingsBetween first m ++ encodingsBetween (m + 1) last
  termination_by last - first
  decreasing_by
    · exact Nat.sub_lt_sub_right m.property.1 m.property.2
    · exact Nat.sub_lt_sub_left (Nat.lt_of_le_of_lt m.property.1 m.property.2) (Nat.lt_succ_of_le m.property.1)

/-- The encodings of a range of characters. -/
def encodingsOf (r : Nat × Nat) : List ByteRanges :=
  if r.1 < 0xe000 ∧ 0xd7ff < r.2 then encodingsBetween r.1 0xd7ff ++ encodingsBetween 0xe000 r.2
  else encodingsBetween r.1 r.2

/-- The encodings of the characters in a set. -/
def Ranges.encodings (set : Ranges) : List ByteRanges := set.flatMap encodingsOf

end Phrasebook.Unicode
