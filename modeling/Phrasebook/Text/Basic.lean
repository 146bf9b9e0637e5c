import Phrasebook.Unicode.Blank

/-!
# Texts as lists of characters

Readers of this library work on lists of characters, so that what a reader has taken is the front of its input and an
offset is a difference of lengths. Here are the cuts that several of them share: at white space, at a separator, at the
first occurrence of another text.
-/

namespace Phrasebook

namespace Text

open Unicode

/-- The text from its first character that is not white space on. -/
def skipBlank (s : List Char) : List Char := s.dropWhile isBlank

theorem length_skipBlank_le (s : List Char) : (skipBlank s).length ≤ s.length :=
  (List.dropWhile_sublist isBlank).length_le

theorem length_dropWhile_le (p : Char → Bool) (s : List Char) : (s.dropWhile p).length ≤ s.length :=
  (List.dropWhile_sublist p).length_le

/-- A run read up to the first character that `p` refuses, if it is not empty, leaves less than it was given. -/
theorem length_dropWhile_lt {p : Char → Bool} {s : List Char} (h : s.takeWhile p ≠ []) :
    (s.dropWhile p).length < s.length := by
  have hs := congrArg List.length (List.takeWhile_append_dropWhile (p := p) (l := s))
  have hp := List.length_pos_iff.mpr h
  rw [List.length_append] at hs
  omega

/-- The text without the characters at its end that satisfy `p`. -/
def dropEndWhile (p : Char → Bool) (s : List Char) : List Char := (s.reverse.dropWhile p).reverse

/-- The text without white space at either end. -/
def trim (s : List Char) : List Char := dropEndWhile isBlank (skipBlank s)

/-- The pieces of a text between the occurrences of a separator; one more than there are separators. -/
def splitAt (separator : Char) : List Char → List (List Char)
  | [] => [[]]
  | c :: rest =>
    if c = separator then [] :: splitAt separator rest
    else match splitAt separator rest with
      | [] => [[c]]
      | piece :: pieces => (c :: piece) :: pieces

theorem splitAt_ne_nil (separator : Char) (s : List Char) : splitAt separator s ≠ [] := by
  fun_induction splitAt separator s <;> simp

/-- The pieces with the separator between them are the text. -/
theorem intercalate_splitAt (separator : Char) (s : List Char) :
    [separator].intercalate (splitAt separator s) = s := by
  fun_induction splitAt separator s with
  | case1 => rfl
  | case2 rest ih =>
    obtain ⟨piece, pieces, h⟩ := List.exists_cons_of_ne_nil (splitAt_ne_nil separator rest)
    rw [h] at ih ⊢
    simp_all [List.intercalate]
  | case3 c rest hc h => exact absurd h (splitAt_ne_nil separator rest)
  | case4 c rest hc piece pieces h ih =>
    rw [h] at ih
    cases pieces <;> simp_all [List.intercalate]

/-- What follows `start` in a text that begins with it. -/
def afterPrefix? : List Char → List Char → Option (List Char)
  | [], s => some s
  | _ :: _, [] => none
  | c :: start, d :: s => if c = d then afterPrefix? start s else none

theorem afterPrefix?_eq_some_iff {start s rest : List Char} : afterPrefix? start s = some rest ↔ s = start ++ rest := by
  fun_induction afterPrefix? start s <;> grind

theorem length_afterPrefix_le {start s rest : List Char} (h : afterPrefix? start s = some rest) :
    rest.length ≤ s.length := by
  rw [afterPrefix?_eq_some_iff.mp h, List.length_append]
  exact Nat.le_add_left ..

/-- The text cut at the first occurrence of `needle`: what stands before it and what follows it. -/
def breakOn? (needle : List Char) : List Char → Option (List Char × List Char)
  | [] => (afterPrefix? needle []).map fun after => ([], after)
  | c :: rest =>
    match afterPrefix? needle (c :: rest) with
    | some after => some ([], after)
    | none => (breakOn? needle rest).map fun (before, after) => (c :: before, after)

/-- Nothing is lost by a cut. -/
theorem eq_of_breakOn? {needle s : List Char} {found : List Char × List Char} (h : breakOn? needle s = some found) :
    s = found.1 ++ (needle ++ found.2) := by
  induction s generalizing found with
  | nil =>
    simp only [breakOn?, Option.map_eq_some_iff] at h
    obtain ⟨after, ha, rfl⟩ := h
    simpa using afterPrefix?_eq_some_iff.mp ha
  | cons c rest ih =>
    rw [breakOn?] at h
    split at h
    · next after ha =>
      obtain rfl := Option.some.inj h
      simpa using afterPrefix?_eq_some_iff.mp ha
    · obtain ⟨pair, hp, rfl⟩ := Option.map_eq_some_iff.mp h
      exact congrArg (c :: ·) (ih hp)

/-- The texts one after another with `separator` between them. -/
def join (separator : String) (texts : List String) : String := String.intercalate separator texts

/-- The number of bytes of a text in UTF-8. -/
def byteLength : List Char → Nat
  | [] => 0
  | c :: rest => c.utf8Size + byteLength rest

/-- The value of a hexadecimal digit in either case. -/
def hexValue? (c : Char) : Option Nat :=
  if '0' ≤ c ∧ c ≤ '9' then some (c.toNat - '0'.toNat)
  else if 'a' ≤ c ∧ c ≤ 'f' then some (c.toNat - 'a'.toNat + 10)
  else if 'A' ≤ c ∧ c ≤ 'F' then some (c.toNat - 'A'.toNat + 10)
  else none

/-- The number written in hexadecimal digits, the highest first. -/
def hexNumber? : List Char → Option Nat
  | [] => none
  | digits => digits.foldlM (fun n c => (hexValue? c).map (16 * n + ·)) 0

/-- The number written in decimal digits, the highest first. -/
def decimalNumber (digits : List Char) : Nat := digits.foldl (fun n c => 10 * n + (c.toNat - '0'.toNat)) 0

/-- The character of a code point, unless the code point is half of a surrogate pair or too large. -/
def charOf? (n : Nat) : Option Char := if h : n.isValidChar then some (Char.ofNatAux n h) else none

end Text

end Phrasebook
