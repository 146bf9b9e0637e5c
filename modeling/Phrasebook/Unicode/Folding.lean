import Phrasebook.Unicode.CaseMap
import Phrasebook.Unicode.Category

/-!
# Characters equal up to case

Two characters are equal up to case if they have the same simple case folding. Most such characters come in pairs, a
small letter and its capital; the others are listed. Only characters of Unicode 16.0 are paired.
-/

namespace Phrasebook.Unicode

/-- The characters equal up to case that are not just a small letter and its capital. -/
def irregularCases : List (List Nat) := [
  [0x4b, 0x6b, 0x212a], [0x53, 0x73, 0x17f], [0xb5, 0x39c, 0x3bc], [0xc5, 0xe5, 0x212b], [0x1c4, 0x1c5, 0x1c6],
  [0x1c7, 0x1c8, 0x1c9], [0x1ca, 0x1cb, 0x1cc], [0x1f1, 0x1f2, 0x1f3], [0x345, 0x399, 0x3b9, 0x1fbe],
  [0x390, 0x1fd3], [0x392, 0x3b2, 0x3d0], [0x395, 0x3b5, 0x3f5], [0x398, 0x3b8, 0x3d1, 0x3f4], [0x39a, 0x3ba, 0x3f0],
  [0x3a0, 0x3c0, 0x3d6], [0x3a1, 0x3c1, 0x3f1], [0x3a3, 0x3c2, 0x3c3], [0x3a6, 0x3c6, 0x3d5], [0x3a9, 0x3c9, 0x2126],
  [0x3b0, 0x1fe3], [0x412, 0x432, 0x1c80], [0x414, 0x434, 0x1c81], [0x41e, 0x43e, 0x1c82], [0x421, 0x441, 0x1c83],
  [0x422, 0x442, 0x1c84, 0x1c85], [0x42a, 0x44a, 0x1c86], [0x462, 0x463, 0x1c87], [0x1c88, 0xa64a, 0xa64b],
  [0x1e60, 0x1e61, 0x1e9b], [0xfb05, 0xfb06]]

/-- The pairs of different members of a list, each once. -/
def pairsOf : List Nat → List (Nat × Nat)
  | [] => []
  | n :: rest => rest.map (fun m => (n, m)) ++ pairsOf rest

/-- Each code point of a shift with its image. -/
def Shift.pairs (s : Shift) : List (Nat × Nat) :=
  (List.range ((s.last - s.first) / s.step + 1)).map fun i =>
    (s.first + i * s.step, (((s.first + i * s.step : Nat) : Int) + s.delta).toNat)

/-- Characters equal up to case, as pairs. -/
def casePairs : List (Nat × Nat) :=
  irregularCases.flatMap pairsOf ++ (Shift.pairs ⟨0x41, 0x5a, 1, 32⟩ ++ lowerShifts.flatMap Shift.pairs)

/-- What a set lacks of a pair of which it has the other. -/
def otherOfPair (set : Ranges) (pair : Nat × Nat) : List (Nat × Nat) :=
  let ofFirst := if set.has pair.1 then [(pair.2, pair.2)] else []
  let lacking := ofFirst ++ if set.has pair.2 then [(pair.1, pair.1)] else []
  if lacking.isEmpty || Category.unassigned.has pair.1 || Category.unassigned.has pair.2 then [] else lacking

/-- The characters equal up to case to one in the set. -/
def foldCase (set : Ranges) : Ranges := set.union (.ofList (casePairs.flatMap (otherOfPair set)))

/-- The characters equal up to the case of ASCII letters to one in the set. -/
def foldAsciiCase (set : Ranges) : Ranges :=
  set.union (.ofList ((Shift.pairs ⟨0x41, 0x5a, 1, 32⟩).flatMap (otherOfPair set)))

end Phrasebook.Unicode
