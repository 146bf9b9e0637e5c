/-!
# Choices made

A search remembers at which places it has made which choices. What is remembered is a byte for each place and choice, up
to the last of them that was needed.
-/

namespace Phrasebook.Regex

/-- The choices that have been made at places from a first one on. -/
structure Seen where
  /-- How many choices there are at each place. -/
  choices : Nat
  first : Nat
  marks : ByteArray

namespace Seen

/-- No choice has been made. -/
def empty (choices first : Nat) : Seen := ⟨choices, first, .empty⟩

/-- Where a choice at a place is marked. -/
def slot (s : Seen) (number index : Nat) : Nat := (index - s.first) * s.choices + number

/-- Has the choice been made at the place? -/
def contains (s : Seen) (number index : Nat) : Bool :=
  let i := s.slot number index
  if h : i < s.marks.size then s.marks.get i h != 0 else false

/-- Marks with zeros after them. -/
def extend : Nat → ByteArray → ByteArray
  | 0, marks => marks
  | n + 1, marks => extend n (marks.push 0)

/-- The choice has been made at the place as well. -/
def insert (s : Seen) (number index : Nat) : Seen :=
  let i := s.slot number index
  let ⟨choices, first, marks⟩ := s
  let marks := extend (i + 1 - marks.size) marks
  ⟨choices, first, if h : i < marks.size then marks.set i 1 h else marks⟩

end Seen

end Phrasebook.Regex
