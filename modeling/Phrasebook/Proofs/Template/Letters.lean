import Mathlib.Algebra.GroupWithZero.Nat
import Phrasebook.Proofs.Template.Normalizing

/-!
# Letters that stay in a template

A name in camel case has other cases than it had before, and no longer what separated its words, but the same letters. Here two of
them are counted, B and F, whatever their case and also in ligatures (`tally`): a template in its normal form has as many as
it had before (`tally_normalizeChars`).
-/

namespace Phrasebook

namespace Unicode

variable {c : Char} {n m : Nat}

/-- The code points of B and F, in capitals, small and in the ligatures `ff`, `fi`, `fl`, `ffi` and `ffl`. -/
def countedCodes : List Nat := [0x42, 0x46, 0x62, 0x66, 0xfb00, 0xfb01, 0xfb02, 0xfb03, 0xfb04]

/-- How many letters B and F a code point stands for. -/
def codeTally (n : Nat) : Nat :=
  if n ∈ countedCodes then if n ∈ [0xfb00, 0xfb03, 0xfb04] then 2 else 1 else 0

/-- How many letters B and F a text has. -/
def tally (s : List Char) : Nat := (s.map fun c => codeTally c.toNat).sum

/-- Each character counts by itself. -/
theorem tally_cons (c : Char) (s : List Char) : tally (c :: s) = codeTally c.toNat + tally s := by
  rw [tally, List.map_cons, List.sum_cons, tally]

/-- Counts add up along a text. -/
theorem tally_append (s t : List Char) : tally (s ++ t) = tally s + tally t := by
  rw [tally, List.map_append, List.sum_append, tally, tally]

/-- A text of one character counts as this character. -/
theorem tally_singleton (c : Char) : tally [c] = codeTally c.toNat := by
  rw [tally_cons, tally, List.map_nil, List.sum_nil, Nat.add_zero]

/-- Nothing is counted in no text. -/
theorem tally_nil : tally [] = 0 := rfl

/-- Does the table move none of the letters that are counted, and nothing to them? -/
def leavesCounted (table : List Shift) : Bool :=
  table.all fun s => decide (0 ≤ (s.first : Int) + s.delta) && countedCodes.all fun n => !s.stride.has n && !s.image.has n

/-- What the characters become whose case is changed has the letters that they had; so have those of ASCII in both cases. The letters
that are counted are letters. -/
theorem tables_tallied : leavesCounted lowerShifts = true ∧ leavesCounted upperShifts = true ∧
    (upperExpansions.all fun entry => tally (entry.2.map Char.ofNat) == codeTally entry.1) = true ∧
    (∀ n < 0x80, codeTally (Char.ofNat n).toLower.toNat = codeTally n ∧ codeTally (Char.ofNat n).toUpper.toNat = codeTally n) ∧
    ∀ n ∈ countedCodes, isAlphanumeric (Char.ofNat n) = true := by
  decide +kernel

/-- A table that was checked moves a code point only to one that counts as much. -/
theorem codeTally_of_shiftBy {table : List Shift} (htable : leavesCounted table = true) (h : shiftBy table n = some m) :
    codeTally m = codeTally n := by
  obtain ⟨s, hs, hhas, rfl⟩ := exists_of_shiftBy h
  have hshift := List.all_eq_true.mp htable s hs
  rw [Bool.and_eq_true, decide_eq_true_eq] at hshift
  have himage := has_image hshift.1 hhas
  have hleft : ∀ k, s.stride.has k = true ∨ s.image.has k = true → codeTally k = 0 := by
    intro k hk
    refine if_neg fun hmem => ?_
    have hnone := List.all_eq_true.mp hshift.2 k hmem
    rw [Bool.and_eq_true, Bool.not_eq_true', Bool.not_eq_true'] at hnone
    rcases hk with hk | hk
    · exact absurd (hnone.1.symm.trans hk) Bool.false_ne_true
    · exact absurd (hnone.2.symm.trans hk) Bool.false_ne_true
  rw [hleft _ (.inr himage), hleft _ (.inl hhas)]

/-- Both cases of an ASCII letter count the same. -/
theorem codeTally_cases (h : c.toNat < 0x80) :
    codeTally c.toLower.toNat = codeTally c.toNat ∧ codeTally c.toUpper.toNat = codeTally c.toNat := by
  have hcode := tables_tallied.2.2.2.1 c.toNat h
  rwa [Char.ofNat_toNat] at hcode

/-- A code point that is moved is a character again. -/
theorem toNat_of_shiftBy {table : List Shift} (htable : isLetteredTable table = true) (h : shiftBy table n = some m) :
    (Char.ofNat m).toNat = m := toNat_ofNat (isValidChar_of_letter (letter_of_shiftBy htable h))

/-- Lower case keeps the letters of a character, also where it becomes two characters. -/
theorem tally_lowerChar (c : Char) : tally (lowerChar c) = codeTally c.toNat := by
  unfold lowerChar
  split
  · next hascii => rw [tally_singleton, (codeTally_cases hascii).1]
  · split
    · next hdotted =>
      rw [eq_of_beq hdotted]
      decide
    · split
      · next m hshift =>
        rw [tally_singleton, toNat_of_shiftBy tables_lettered.2.1 hshift, codeTally_of_shiftBy tables_tallied.1 hshift]
      · exact tally_singleton c

/-- Upper case does too: a ligature comes apart into the letters that it counts as. -/
theorem tally_upperChar (c : Char) : tally (upperChar c) = codeTally c.toNat := by
  unfold upperChar
  split
  · next hascii => rw [tally_singleton, (codeTally_cases hascii).2]
  · split
    · next code codes hfind =>
      have hcode : code = c.toNat := by simpa using List.find?_some hfind
      have htally := List.all_eq_true.mp tables_tallied.2.2.1 _ (List.mem_of_find?_eq_some hfind)
      rw [← hcode]
      exact eq_of_beq htally
    · split
      · next m hshift =>
        rw [tally_singleton, toNat_of_shiftBy tables_lettered.2.2.1 hshift, codeTally_of_shiftBy tables_tallied.2.1 hshift]
      · exact tally_singleton c

/-- A sigma is not counted, at the end of a word or elsewhere. -/
theorem tally_lowerAt (before : List Char) (c : Char) (rest : List Char) :
    tally (lowerAt before c rest) = codeTally c.toNat := by
  unfold lowerAt
  split
  · next hsigma =>
    rw [eq_of_beq hsigma]
    split <;> decide
  · exact tally_lowerChar c

/-- So a text in lower case has the letters that it had. -/
theorem tally_lowerAfter (before s : List Char) : tally (lowerAfter before s) = tally s := by
  induction s generalizing before with
  | nil => rfl
  | cons c s ih => rw [lowerAfter_cons, tally_append, tally_lowerAt, ih, tally_cons]

/-- The letters that are counted are letters. -/
theorem codeTally_of_not_isAlphanumeric (hc : isAlphanumeric c = false) : codeTally c.toNat = 0 := by
  refine if_neg fun hmem => ?_
  have hletter := tables_tallied.2.2.2.2 _ hmem
  rw [Char.ofNat_toNat, hc] at hletter
  cases hletter

end Unicode

/-! ## Camel case -/

namespace Text

open Unicode

/-- Putting a word in front of others, or leaving it out if it is empty, counts it once. -/
theorem tally_flatten_consWord (word : List Char) (words : List (List Char)) :
    tally (consWord word words).flatten = tally word + tally words.flatten := by
  unfold consWord
  split
  · next hempty => rw [List.isEmpty_iff.mp hempty, tally_nil, Nat.zero_add]
  · rw [List.flatten_cons, tally_append]

/-- What separates words has none of the letters, and all others stand in words. -/
theorem tally_wordsAfter (p : Char) (s : List Char) :
    tally (wordsAfter p s).1 + tally (wordsAfter p s).2.flatten = tally s := by
  induction s generalizing p with
  | nil => rfl
  | cons c s ih =>
    cases hc : isAlphanumeric c with
    | false =>
      rw [wordsAfter_cons_of_gap hc, tally_flatten_consWord, ih, tally_cons, codeTally_of_not_isAlphanumeric hc, tally_nil]
    | true =>
      cases hstart : startsWord p c s with
      | true =>
        rw [wordsAfter_cons_of_startsWord hc hstart, List.flatten_cons, tally_append, tally_cons, tally_cons, ← ih c,
          tally_nil]
        omega
      | false =>
        rw [wordsAfter_cons_of_goesOn hc hstart, tally_cons, tally_cons, ← ih c, Nat.add_assoc]

/-- A capital in front changes no count. -/
theorem tally_capitalize (word : List Char) : tally (capitalize word) = tally word := by
  cases word with
  | nil => rfl
  | cons c word => rw [capitalize, tally_append, tally_upperChar, lower, tally_lowerAfter, tally_cons]

/-- Words that are joined have the letters of all words. -/
theorem tally_joinCamel (words : List (List Char)) : tally (joinCamel words) = tally words.flatten := by
  have hothers : ∀ words : List (List Char), tally (words.flatMap capitalize) = tally words.flatten := by
    intro words
    induction words with
    | nil => rfl
    | cons word words ih => rw [List.flatMap_cons, tally_append, tally_capitalize, ih, List.flatten_cons, tally_append]
  cases words with
  | nil => rfl
  | cons word words => rw [joinCamel, tally_append, lower, tally_lowerAfter, hothers, List.flatten_cons, tally_append]

/-- A text in camel case has the letters that it had before. -/
theorem tally_camelCase (s : List Char) : tally (camelCase s) = tally s := by
  rw [camelCase, tally_joinCamel, words, tally_flatten_consWord, tally_wordsAfter]

end Text

/-! ## Templates -/

namespace Template

open Unicode

/-- A name between braces keeps its letters, whether it is put into camel case or stays. -/
theorem tally_normalName (inside : List Char) : tally (normalName inside) = tally inside := by
  unfold normalName
  split
  · exact Text.tally_camelCase inside
  · rfl

/-- By the recursion over the groups of the template. -/
theorem tally_normalizeChars (s : List Char) : tally (normalizeChars s) = tally s := by
  fun_induction groups s with
  | case1 => rw [normalizeChars_nil]
  | case2 rest h => rw [normalizeChars_open h]
  | case3 rest inside after h _ ih =>
    rw [normalizeChars_group h, (closeBrace?_eq_some h).1, tally_cons, tally_append, tally_normalName, tally_cons, ih,
      tally_cons, tally_append, tally_cons]
  | case4 c rest hc ih => rw [normalizeChars_cons hc, tally_cons, ih, tally_cons]

end Template

end Phrasebook
