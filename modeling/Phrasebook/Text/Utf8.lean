/-!
# Bytes as text

Files hold bytes. Strictly read, bytes are a text only if they are its encoding in UTF-8; leniently read, every longest
front of an encoding that is cut short, and every byte that begins none, stands for one replacement character.
-/

namespace Phrasebook.Text

/-- Stands for bytes that encode nothing. -/
def replacement : Char := Char.ofNat 0xfffd

/-- The low six bits of a byte inside an encoding. -/
def lowBits (b : UInt8) : Nat := b.toNat % 64

/-- Is the byte in the range? -/
def byteIn (low high : Nat) (b : UInt8) : Bool := low ≤ b.toNat && b.toNat ≤ high

/-- The range of the second byte after a first byte of two, three or four bytes; it excludes long forms, surrogates and
what is past the last code point. -/
def secondRange (first : UInt8) : Nat × Nat :=
  if first.toNat = 0xe0 then (0xa0, 0xbf)
  else if first.toNat = 0xed then (0x80, 0x9f)
  else if first.toNat = 0xf0 then (0x90, 0xbf)
  else if first.toNat = 0xf4 then (0x80, 0x8f)
  else (0x80, 0xbf)

/-- Bytes inside an encoding that follow one another: the number they continue, and what comes after as many of them as
are wanted, or after those that are there. -/
def readTail : Nat → Nat → List UInt8 → Option Nat × List UInt8
  | 0, value, rest => (some value, rest)
  | _ + 1, _, [] => (none, [])
  | wanted + 1, value, b :: rest =>
    if byteIn 0x80 0xbf b then readTail wanted (64 * value + lowBits b) rest else (none, b :: rest)

/-- The rest of an encoding after its first byte `first`, whose own bits are `value`. -/
def readSequence (first : UInt8) (wanted value : Nat) : List UInt8 → Option Nat × List UInt8
  | [] => (none, [])
  | b :: rest =>
    let (low, high) := secondRange first
    if byteIn low high b then readTail (wanted - 1) (64 * value + lowBits b) rest else (none, b :: rest)

/-- The code point that begins with a byte, and the bytes after it or after its front. -/
def readCodePoint (first : UInt8) (rest : List UInt8) : Option Nat × List UInt8 :=
  if first.toNat < 0x80 then (some first.toNat, rest)
  else if byteIn 0xc2 0xdf first then readSequence first 1 (first.toNat - 0xc0) rest
  else if byteIn 0xe0 0xef first then readSequence first 2 (first.toNat - 0xe0) rest
  else if byteIn 0xf0 0xf4 first then readSequence first 3 (first.toNat - 0xf0) rest
  else (none, rest)

theorem length_readTail_le (wanted value : Nat) (bytes : List UInt8) :
    (readTail wanted value bytes).2.length ≤ bytes.length := by
  fun_induction readTail wanted value bytes with
  | case1 => simp
  | case2 => simp
  | case3 _ _ _ _ _ ih => simp only [List.length_cons]; omega
  | case4 => simp

theorem length_readSequence_le (first : UInt8) (wanted value : Nat) (bytes : List UInt8) :
    (readSequence first wanted value bytes).2.length ≤ bytes.length := by
  unfold readSequence
  split
  · simp
  · rename_i b rest
    split
    split
    · have := length_readTail_le (wanted - 1) (64 * value + lowBits b) rest
      simp only [List.length_cons]; omega
    · simp

theorem length_readCodePoint_le (first : UInt8) (rest : List UInt8) :
    (readCodePoint first rest).2.length ≤ rest.length := by
  unfold readCodePoint
  (repeat' split) <;> simp [length_readSequence_le]

/-- The characters of bytes, leniently read. -/
def lenientChars : List UInt8 → List Char
  | [] => []
  | b :: bytes =>
    let read := readCodePoint b bytes
    ((read.1.map Char.ofNat).getD replacement) :: lenientChars read.2
  termination_by bytes => bytes.length
  decreasing_by
    have := length_readCodePoint_le b bytes
    simp only [List.length_cons]; omega

/-- The text that the bytes encode, if they encode one. -/
def ofBytes? (bytes : ByteArray) : Option String := String.fromUTF8? bytes

/-- The text of the bytes, leniently read. -/
def ofBytes (bytes : ByteArray) : String :=
  match ofBytes? bytes with
  | some s => s
  | none => String.ofList (lenientChars bytes.toList)

/-- The encoding of a text. -/
def toBytes (s : String) : ByteArray := s.toUTF8

end Phrasebook.Text
