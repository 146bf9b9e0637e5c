/-!
# Sets of code points as ranges

A property of characters is a table: closed ranges of code points, or strides where only every second code point has
the property. Sets are united, intersected, subtracted and complemented range by range, and the result is again
ascending with gaps between its ranges. Code points are those of characters: from the last one before the surrogates the
next one is the first after them.
-/

namespace Phrasebook.Unicode

/-- Closed ranges of code points, ascending and apart. -/
abbrev Ranges := List (Nat × Nat)

/-- The largest code point. -/
def lastCodePoint : Nat := 0x10ffff

/-- The code point of the next character. -/
def codePointAfter (n : Nat) : Nat := if n = 0xd7ff then 0xe000 else n + 1

/-- The code point of the character before. -/
def codePointBefore (n : Nat) : Nat := if n = 0xe000 then 0xd7ff else n - 1

namespace Ranges

/-- Is the code point in one of the ranges? The search ends at the first range that starts above it. -/
def has : Ranges → Nat → Bool
  | [], _ => false
  | (first, last) :: rest, n => if n < first then false else n ≤ last || has rest n

/-- A range put in front of ranges that begin no lower, joined with those that it touches or overlaps. -/
def joinFrom (first last : Nat) : List (Nat × Nat) → Ranges
  | [] => [(first, last)]
  | (a, b) :: rest => if a ≤ last + 1 then joinFrom first (max last b) rest else (first, last) :: joinFrom a b rest

/-- Ranges in the order of their first code points, joined where they touch or overlap. -/
def join : List (Nat × Nat) → Ranges
  | [] => []
  | (first, last) :: rest => joinFrom first last rest

/-- Does the one range begin no higher than the other? -/
def begins (r s : Nat × Nat) : Bool := r.1 ≤ s.1

/-- Ranges in any order as a set. -/
def ofList (ranges : List (Nat × Nat)) : Ranges := join (ranges.mergeSort begins)

/-- A range among others in ascending order; `merge` puts more ranges among those after it. -/
def putAmong (r : Nat × Nat) (merge : List (Nat × Nat) → List (Nat × Nat)) : List (Nat × Nat) → List (Nat × Nat)
  | [] => r :: merge []
  | s :: rest => if begins r s then r :: merge (s :: rest) else s :: putAmong r merge rest

/-- The ranges of both sets in the order of their first code points. -/
def merge : Ranges → Ranges → List (Nat × Nat)
  | [] => fun y => y
  | r :: rest => putAmong r (merge rest)

/-- The code points in either set. -/
def union (x y : Ranges) : Ranges := join (merge x y)

/-- The code points in one of the sets. -/
def unionAll (sets : List Ranges) : Ranges := sets.foldr union []

/-- The part of a range that is in a set. -/
def clip (r : Nat × Nat) (set : Ranges) : Ranges :=
  set.filterMap fun s => if max r.1 s.1 ≤ min r.2 s.2 then some (max r.1 s.1, min r.2 s.2) else none

/-- The code points in both sets. -/
def inter (x y : Ranges) : Ranges := x.flatMap fun r => clip r y

/-- The part of a range that is not in a set. -/
def cut (first last : Nat) : Ranges → Ranges
  | [] => [(first, last)]
  | (a, b) :: rest =>
    if b < first then cut first last rest
    else if last < a then [(first, last)]
    else
      let low := if first < a then [(first, codePointBefore a)] else []
      if b < last then low ++ cut (codePointAfter b) last rest else low

/-- The code points of the first set that are not in the second. -/
def diff (x y : Ranges) : Ranges := x.flatMap fun r => cut r.1 r.2 y

/-- The code points in exactly one of the sets. -/
def symmDiff (x y : Ranges) : Ranges := diff (union x y) (inter x y)

/-- The gaps between ranges, given where the gap before them begins. A gap goes from the successor of one range to the
predecessor of the next; where the surrogates alone are between the two, these are the ends of the ranges themselves. -/
def gapsFrom (start : Nat) : Ranges → Ranges
  | [] => if start ≤ lastCodePoint then [(start, lastCodePoint)] else []
  | (a, b) :: rest =>
    (min start (codePointBefore a), max start (codePointBefore a)) :: gapsFrom (codePointAfter b) rest

/-- The code points that are not in the set. -/
def compl : Ranges → Ranges
  | (0, b) :: rest => gapsFrom (codePointAfter b) rest
  | set => gapsFrom 0 set

/-- The code points of ASCII characters in the set. -/
def ascii (set : Ranges) : Ranges := inter set [(0, 0x7f)]

/-- Are all the code points those of ASCII characters? -/
def isAscii (set : Ranges) : Bool := set.all fun r => r.2 ≤ 0x7f

end Ranges

/-- The code points `first`, `first + step`, and so on up to `last`. -/
structure Stride where
  first : Nat
  last : Nat
  step : Nat

/-- Is the code point one of the stride? -/
def Stride.has (s : Stride) (n : Nat) : Bool := s.first ≤ n && n ≤ s.last && (n - s.first) % s.step == 0

/-- The code points of the stride as ranges, each of one if the stride leaves out every second. -/
def Stride.ranges (s : Stride) : List (Nat × Nat) :=
  if s.step = 1 then [(s.first, s.last)]
  else (List.range ((s.last - s.first) / s.step + 1)).map fun i => (s.first + i * s.step, s.first + i * s.step)

/-- Strides ascending by their first code point. -/
abbrev Strides := List Stride

/-- Is the code point in one of the strides? The search ends at the first stride that starts above it. -/
def Strides.has : Strides → Nat → Bool
  | [], _ => false
  | s :: rest, n => if n < s.first then false else s.has n || Strides.has rest n

/-- The code points of the strides as ranges. -/
def Strides.ranges (table : Strides) : Ranges := Ranges.join (table.flatMap Stride.ranges)

/-- The set of a table that lists sets by their names. -/
def Ranges.named? (table : List (List String × Ranges)) (name : String) : Option Ranges :=
  (table.find? (·.1.contains name)).map Prod.snd

end Phrasebook.Unicode
