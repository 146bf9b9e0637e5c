import Phrasebook.Number.Reader

/-!
# The texts that name numbers

A text that names a number is made of letters, digits, points and signs of ASCII (`isNumeralChar_of_ofText?`).
-/

namespace Phrasebook.Number

open Text

variable {c : Char} {s : List Char}

/-- May the character stand in a text that names a number? -/
def isNumeralChar (c : Char) : Bool := c.isAlphanum || c == '.' || c == '+' || c == '-'

/-- Digits occur in numerals. -/
theorem isNumeralChar_of_isDigit (h : c.isDigit = true) : isNumeralChar c = true := by
  simp [isNumeralChar, Char.isAlphanum, h]

/-- A letter of `inf`, `infinity` or `nan` in either case. -/
theorem isNumeralChar_of_toLower (h : c.toLower.isAlpha = true) : isNumeralChar c = true := by
  have halpha : c.isAlpha = true := by
    by_cases hc : c.val ≥ 'A'.val ∧ c.val ≤ 'Z'.val
    · have hupper : c.isUpper = true := by
        delta Char.isUpper
        simpa using hc
      delta Char.isAlpha
      rw [hupper, Bool.true_or]
    · delta Char.toLower at h
      rwa [dif_neg hc] at h
  simp [isNumeralChar, Char.isAlphanum, halpha]

/-- Only a sign is taken from the front. -/
theorem mem_takeSign (hc : c ∈ s) : c = '+' ∨ c = '-' ∨ c ∈ (takeSign s).2 := by
  unfold takeSign
  split
  · rcases List.mem_cons.mp hc with rfl | hc
    · exact .inr (.inl rfl)
    · exact .inr (.inr hc)
  · rcases List.mem_cons.mp hc with rfl | hc
    · exact .inl rfl
    · exact .inr (.inr hc)
  · exact .inr (.inr hc)

/-- An exponent is written with a sign and digits. -/
theorem isNumeralChar_of_exponentOf? {e : Int} (h : exponentOf? s = some e) : ∀ c ∈ s, isNumeralChar c = true := by
  intro c hc
  cases s with
  | nil => cases hc
  | cons mark digits =>
    rw [exponentOf?] at h
    simp only at h
    split at h
    · next hmark =>
      rcases List.mem_cons.mp hc with rfl | hc
      · rcases hmark with rfl | rfl
        · decide
        · decide
      · split at h
        · cases h
        · next hdigits =>
          simp only [Bool.or_eq_true, not_or, Bool.not_eq_true', Bool.not_eq_false] at hdigits
          rcases mem_takeSign hc with rfl | rfl | hc
          · decide
          · decide
          · exact isNumeralChar_of_isDigit (List.all_eq_true.mp hdigits.2 c hc)
    · cases h

/-- Digits, a point among or beside them, and an exponent. -/
theorem isNumeralChar_of_ofDigits? {negative : Bool} {x : Number} (h : ofDigits? negative s = some x) :
    ∀ c ∈ s, isNumeralChar c = true := by
  have hrun : ∀ t : List Char, ∀ c ∈ t.takeWhile Char.isDigit, isNumeralChar c = true := fun t c hc =>
    isNumeralChar_of_isDigit (List.all_eq_true.mp List.all_takeWhile c hc)
  intro c hc
  rw [← List.takeWhile_append_dropWhile (p := Char.isDigit) (l := s)] at hc
  rcases List.mem_append.mp hc with hc | hc
  · exact hrun s c hc
  · unfold ofDigits? at h
    simp only at h
    split at h
    · next rest hpoint =>
      split at h
      · cases h
      · obtain ⟨e, hexponent, -⟩ := Option.map_eq_some_iff.mp h
        rw [hpoint] at hc
        rcases List.mem_cons.mp hc with rfl | hc
        · decide
        · rw [← List.takeWhile_append_dropWhile (p := Char.isDigit) (l := rest)] at hc
          exact (List.mem_append.mp hc).elim (hrun rest c) (isNumeralChar_of_exponentOf? hexponent c)
    · split at h
      · cases h
      · obtain ⟨e, hexponent, -⟩ := Option.map_eq_some_iff.mp h
        exact isNumeralChar_of_exponentOf? hexponent c hc

/-- Nothing else occurs in a text that names a number. -/
theorem isNumeralChar_of_ofText? {x : Number} (h : ofText? s = some x) : ∀ c ∈ s, isNumeralChar c = true := by
  have hword : ∀ word : List Char, word.all Char.isAlpha = true → (takeSign s).2.map Char.toLower = word →
      ∀ c ∈ (takeSign s).2, isNumeralChar c = true := by
    rintro _ hword rfl c hc
    exact isNumeralChar_of_toLower (List.all_eq_true.mp hword _ (List.mem_map_of_mem hc))
  have hrest : ∀ c ∈ (takeSign s).2, isNumeralChar c = true := by
    unfold ofText? at h
    simp only at h
    split at h
    · next hinfinite =>
      rcases hinfinite with hinfinite | hinfinite
      · exact hword _ (by decide) hinfinite
      · exact hword _ (by decide) hinfinite
    · split at h
      · next hnan => exact hword _ (by decide) hnan
      · exact isNumeralChar_of_ofDigits? h
  intro c hc
  rcases mem_takeSign hc with rfl | rfl | hc
  · decide
  · decide
  · exact hrest c hc

end Phrasebook.Number
