import Phrasebook.Proofs.Unicode.CaseImages
import Phrasebook.Text.CamelCase

/-!
# Texts in lower camel case

A text is cut into words by what each character is and by its neighbours alone (`wordsAfter_cons_of_goesOn` and its two
siblings), so what separates words does not matter (`words_append_of_gap`, `words_gap_append`).

A text stays as it is in lower camel case exactly if it is made of letters and numerals and each capital in it begins a word
behind another one (`camelCase_eq_self_iff`). Joining words does not always give such a text: the capitals of words of one
letter come together, and then only the last of them can begin a word.
-/

namespace Phrasebook.Text

open Unicode

variable {p c : Char} {s t gap word : List Char} {ws : List (List Char)}

/-! ## One character of a text -/

/-- What separates words ends the word in front of it. -/
theorem wordsAfter_cons_of_gap (hc : isAlphanumeric c = false) :
    wordsAfter p (c :: s) = ([], consWord (wordsAfter c s).1 (wordsAfter c s).2) := by
  rw [wordsAfter]
  simp only [hc, Bool.not_false, if_true]

/-- A character that starts a word ends the word in front of it. -/
theorem wordsAfter_cons_of_startsWord (hc : isAlphanumeric c = true) (hstart : startsWord p c s = true) :
    wordsAfter p (c :: s) = ([], (c :: (wordsAfter c s).1) :: (wordsAfter c s).2) := by
  rw [wordsAfter]
  simp only [hc, Bool.not_true, Bool.false_eq_true, if_false, hstart, if_true]

/-- Any other letter or numeral goes on with the word in front of it. -/
theorem wordsAfter_cons_of_goesOn (hc : isAlphanumeric c = true) (hstart : startsWord p c s = false) :
    wordsAfter p (c :: s) = (c :: (wordsAfter c s).1, (wordsAfter c s).2) := by
  rw [wordsAfter]
  simp only [hc, Bool.not_true, Bool.false_eq_true, if_false, hstart]

/-- A letter or numeral in front of a text stands in its first word. -/
theorem consWord_wordsAfter_cons (hc : isAlphanumeric c = true) :
    consWord (wordsAfter p (c :: s)).1 (wordsAfter p (c :: s)).2 = (c :: (wordsAfter c s).1) :: (wordsAfter c s).2 := by
  cases hstart : startsWord p c s with
  | true =>
    rw [wordsAfter_cons_of_startsWord hc hstart]
    rfl
  | false =>
    rw [wordsAfter_cons_of_goesOn hc hstart]
    rfl

/-- The words of a text do not depend on what stands before it. -/
theorem consWord_wordsAfter (p : Char) (s : List Char) : consWord (wordsAfter p s).1 (wordsAfter p s).2 = words s := by
  change _ = consWord (wordsAfter ' ' s).1 (wordsAfter ' ' s).2
  cases s with
  | nil => rfl
  | cons c s =>
    cases hc : isAlphanumeric c with
    | true => rw [consWord_wordsAfter_cons hc, consWord_wordsAfter_cons hc]
    | false => rw [wordsAfter_cons_of_gap hc, wordsAfter_cons_of_gap hc]

/-! ## Gaps -/

/-- Characters that separate words. -/
def IsGap (gap : List Char) : Prop := ∀ c ∈ gap, isAlphanumeric c = false

instance (gap : List Char) : Decidable (IsGap gap) := List.decidableBAll _ gap

/-- What is neither letter nor numeral may be left out at the beginning. -/
theorem words_cons_of_gap (hc : isAlphanumeric c = false) : words (c :: s) = words s := by
  rw [← consWord_wordsAfter ' ', wordsAfter_cons_of_gap hc, consWord_wordsAfter]
  rfl

/-- A gap in front of a text changes none of its words. -/
theorem words_append_of_gap (hgap : IsGap gap) : words (gap ++ s) = words s := by
  induction gap with
  | nil => rfl
  | cons c gap ih =>
    obtain ⟨hc, hgap⟩ := List.forall_mem_cons.mp hgap
    rw [List.cons_append, words_cons_of_gap hc, ih hgap]

/-- A small letter is a letter. -/
theorem isLowercase_of_not_isAlphanumeric (hc : isAlphanumeric c = false) : isLowercase c = false := by
  rw [Bool.eq_false_iff]
  intro hlower
  rw [isAlphanumeric_of_isLowercase hlower] at hc
  cases hc

/-- What follows a text does not look like a small letter if it separates words. -/
theorem startsWord_append_gap (hgap : IsGap gap) : startsWord p c (s ++ gap) = startsWord p c s := by
  cases s with
  | cons d s => rfl
  | nil =>
    cases gap with
    | nil => rfl
    | cons d gap =>
      have hd := isLowercase_of_not_isAlphanumeric (List.forall_mem_cons.mp hgap).1
      simp [startsWord, hd]

/-- A gap behind a text changes none of its words. -/
theorem wordsAfter_append_of_gap (hgap : IsGap gap) : wordsAfter p (s ++ gap) = wordsAfter p s := by
  induction s generalizing p with
  | nil =>
    cases gap with
    | nil => rfl
    | cons c gap =>
      obtain ⟨hc, hgap⟩ := List.forall_mem_cons.mp hgap
      have hnone : words gap = [] := by
        rw [← List.append_nil gap, words_append_of_gap hgap]
        rfl
      rw [List.nil_append, wordsAfter_cons_of_gap hc, consWord_wordsAfter, hnone]
      rfl
  | cons c s ih => simp only [List.cons_append, wordsAfter, startsWord_append_gap hgap, ih]

/-- What separates words does not matter behind a text. -/
theorem words_gap_append (hgap : IsGap gap) : words (s ++ gap) = words s := by
  rw [words, words, wordsAfter_append_of_gap hgap]

/-- Nor does it around a text in camel case. -/
theorem camelCase_between {gap' : List Char} (hgap : IsGap gap) (hgap' : IsGap gap') :
    camelCase (gap ++ (s ++ gap')) = camelCase s := by
  rw [camelCase, words_append_of_gap hgap, words_gap_append hgap', camelCase]

/-! ## Texts that are in camel case -/

/-- Each character of the text that has another lower case begins a word behind another one; `p` stands before the text. -/
def CapitalsBegin (p : Char) : List Char → Prop
  | [] => True
  | c :: rest => (lowerChar c ≠ [c] → startsWord p c rest = true) ∧ CapitalsBegin c rest

/-- The text is made of letters and numerals, and each capital in it begins a word behind another one. Behind white space, which
here stands before the text, none does. -/
def IsCamel (s : List Char) : Prop := (∀ c ∈ s, isAlphanumeric c = true) ∧ CapitalsBegin ' ' s

/-- Behind a blank no capital is taken for a boundary. -/
theorem startsWord_blank : startsWord ' ' c s = false := by
  have hblank : isLowercase ' ' = false ∧ isNumeric ' ' = false ∧ isUppercase ' ' = false := by decide
  simp [startsWord, hblank]

/-- What the text behind `p` adds in camel case: the end of the word to which `p` and what stands before it belong, and the
words behind that one. -/
def camelAfter (before : List Char) (p : Char) (s : List Char) : List Char :=
  lowerAfter before (wordsAfter p s).1 ++ (wordsAfter p s).2.flatMap capitalize

/-- A capital that begins a word stays as it is. -/
theorem camelAfter_cons_of_startsWord {before : List Char} (hc : isAlphanumeric c = true)
    (hstart : startsWord p c s = true) : camelAfter before p (c :: s) = c :: camelAfter [] c s := by
  have hupper : isUppercase c = true := (Bool.and_eq_true_iff.mp hstart).1
  rw [camelAfter, wordsAfter_cons_of_startsWord hc hstart]
  simp only [lowerAfter, List.nil_append, List.flatMap_cons, capitalize, upperChar_of_isUppercase hupper, List.append_assoc]
  rfl

/-- A character that goes on with the first word is put into small letters where it stands. -/
theorem camelAfter_cons_of_goesOn {before : List Char} (hc : isAlphanumeric c = true) (hstart : startsWord p c s = false) :
    camelAfter before p (c :: s) = lowerAt before c (wordsAfter c s).1 ++ camelAfter (c :: before) c s := by
  rw [camelAfter, wordsAfter_cons_of_goesOn hc hstart, lowerAfter_cons, List.append_assoc]
  rfl

/-- Behind a gap all words are capitalized. -/
theorem camelAfter_cons_of_gap {before : List Char} (hc : isAlphanumeric c = false) :
    camelAfter before p (c :: s) = (words s).flatMap capitalize := by
  rw [camelAfter, wordsAfter_cons_of_gap hc, consWord_wordsAfter]
  rfl

/-- A text has no words, or its first word begins with a letter or numeral. -/
theorem words_cases (s : List Char) :
    words s = [] ∨ ∃ c word ws, words s = (c :: word) :: ws ∧ isAlphanumeric c = true := by
  induction s with
  | nil => exact .inl rfl
  | cons c s ih =>
    cases hc : isAlphanumeric c with
    | true => exact .inr ⟨c, _, _, (consWord_wordsAfter ' ' (c :: s)).symm.trans (consWord_wordsAfter_cons hc), hc⟩
    | false => rwa [words_cons_of_gap hc]

/-- Words do not begin with what separates words, whether they are capitalized or put into lower case. -/
theorem ne_cons_of_isCaseOf {image rest : List Char} {d : Char} (h : IsCaseOf c image) (hd : isAlphanumeric d = false) :
    image ++ rest ≠ d :: s := by
  obtain ⟨e, marks, rfl, he, -⟩ := h
  intro heq
  obtain ⟨rfl, -⟩ := List.cons.inj heq
  rw [he] at hd
  cases hd

/-- Capitalized words never begin with what is neither letter nor numeral. -/
theorem flatMap_capitalize_words_ne {d : Char} (hd : isAlphanumeric d = false) :
    (words s).flatMap capitalize ≠ d :: t := by
  rcases words_cases s with hnone | ⟨c, word, ws, hwords, hc⟩
  · rw [hnone]
    exact (List.cons_ne_nil d t).symm
  · rw [hwords, List.flatMap_cons, capitalize, List.append_assoc]
    exact ne_cons_of_isCaseOf (isCaseOf_upperChar hc) hd

/-- Nor do the words when they are joined in camel case. -/
theorem joinCamel_words_ne {d : Char} (hd : isAlphanumeric d = false) : joinCamel (words s) ≠ d :: t := by
  rcases words_cases s with hnone | ⟨c, word, ws, hwords, hc⟩
  · rw [hnone]
    exact (List.cons_ne_nil d t).symm
  · rw [hwords, joinCamel, lower, lowerAfter_cons, List.append_assoc]
    exact ne_cons_of_isCaseOf (isCaseOf_lowerAt hc) hd

/-- A character that goes on a word stays as it is exactly if it has no other lower case. -/
theorem lowerAt_append_eq_cons_iff {before rest : List Char} (hc : isAlphanumeric c = true) :
    lowerAt before c rest ++ s = c :: t ↔ lowerChar c = [c] ∧ s = t := by
  constructor
  · intro h
    obtain ⟨d, marks, himage, -, hself, -⟩ : IsCaseOf c (lowerAt before c rest) := isCaseOf_lowerAt hc
    rw [himage] at h
    obtain ⟨rfl, h⟩ := List.cons.inj h
    rw [hself rfl] at himage h
    exact ⟨lowerAt_eq_self_iff.mp himage, by simpa using h⟩
  · rintro ⟨hlower, rfl⟩
    rw [lowerAt_eq_self_iff.mpr hlower]
    rfl

/-- The text behind a character stays as it is exactly if its capitals begin words, by induction on the text. -/
theorem camelAfter_eq_self_iff {before : List Char} :
    camelAfter before p s = s ↔ (∀ c ∈ s, isAlphanumeric c = true) ∧ CapitalsBegin p s := by
  induction s generalizing before p with
  | nil => exact ⟨fun _ => ⟨nofun, trivial⟩, fun _ => rfl⟩
  | cons c s ih =>
    rw [List.forall_mem_cons, CapitalsBegin]
    cases hc : isAlphanumeric c with
    | false =>
      rw [camelAfter_cons_of_gap hc]
      exact ⟨fun h => absurd h (flatMap_capitalize_words_ne hc), fun h => absurd h.1.1 Bool.false_ne_true⟩
    | true =>
      cases hstart : startsWord p c s with
      | true =>
        rw [camelAfter_cons_of_startsWord hc hstart, List.cons_inj_right, ih]
        simp
      | false =>
        rw [camelAfter_cons_of_goesOn hc hstart, lowerAt_append_eq_cons_iff hc, ih]
        simpa using and_left_comm

/-- A text stays as it is in lower camel case exactly if it is made of letters and numerals and each capital in it begins a
word behind another one. -/
theorem camelCase_eq_self_iff : camelCase s = s ↔ IsCamel s := by
  rw [IsCamel]
  cases s with
  | nil => exact ⟨fun _ => ⟨nofun, trivial⟩, fun _ => rfl⟩
  | cons c s =>
    rw [List.forall_mem_cons, CapitalsBegin]
    cases hc : isAlphanumeric c with
    | false =>
      rw [camelCase, words_cons_of_gap hc]
      exact ⟨fun h => absurd h (joinCamel_words_ne hc), fun h => absurd h.1.1 Bool.false_ne_true⟩
    | true =>
      have hjoin : camelCase (c :: s) = lowerAt [] c (wordsAfter c s).1 ++ camelAfter [c] c s := by
        rw [camelCase, ← consWord_wordsAfter ' ', consWord_wordsAfter_cons hc, joinCamel, lower, lowerAfter_cons,
          List.append_assoc]
        rfl
      rw [hjoin, lowerAt_append_eq_cons_iff hc, camelAfter_eq_self_iff, startsWord_blank]
      simpa using and_left_comm

end Phrasebook.Text
