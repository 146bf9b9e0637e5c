import Phrasebook.Number.Plain

/-!
# The characters of numbers

A number in plain notation has digits, a sign and a point, or the letters of what is not finite.
-/

namespace Phrasebook.Number

variable {c : Char} {k : Nat}

/-- The characters that stand in the texts of numbers. -/
def isPlainChar (c : Char) : Bool := c.isAlphanum || c == '-' || c == '.'

/-- Digits are characters of numbers. -/
theorem isPlainChar_of_isDigit (h : c.isDigit = true) : isPlainChar c = true := by simp [isPlainChar, Char.isAlphanum, h]

/-- The digits of a natural number are. -/
theorem isPlainChar_of_mem_digitsOf (h : c ∈ digitsOf k) : isPlainChar c = true :=
  isPlainChar_of_isDigit (Nat.isDigit_of_mem_toDigits (by decide) (by decide) h)

/-- So are the zeros that fill up a number. -/
theorem isPlainChar_of_mem_zeros (h : c ∈ zeros k) : isPlainChar c = true := by
  rw [List.eq_of_mem_replicate h]
  decide

/-- The sign is a minus or nothing. -/
theorem isPlainChar_of_mem_signText {negative : Bool} (h : c ∈ signText negative) : isPlainChar c = true := by
  cases negative with
  | false => cases h
  | true =>
    rw [List.mem_singleton.mp h]
    decide

/-- A decimal has nothing but digits and perhaps a point, wherever the point comes to stand. -/
theorem isPlainChar_of_mem_decimal {d : Decimal} (h : c ∈ d.plain) : isPlainChar c = true := by
  unfold Decimal.plain at h
  simp only at h
  split at h
  · rcases List.mem_append.mp h with h | h
    · exact isPlainChar_of_mem_digitsOf h
    · exact isPlainChar_of_mem_zeros h
  · split at h
    · rcases List.mem_append.mp h with h | h
      · exact isPlainChar_of_mem_digitsOf (List.mem_of_mem_take h)
      · rcases List.mem_cons.mp h with rfl | h
        · decide
        · exact isPlainChar_of_mem_digitsOf (List.mem_of_mem_drop h)
    · rcases List.mem_cons.mp h with rfl | h
      · decide
      · rcases List.mem_cons.mp h with rfl | h
        · decide
        · rcases List.mem_append.mp h with h | h
          · exact isPlainChar_of_mem_zeros h
          · exact isPlainChar_of_mem_digitsOf h

/-- No other characters stand in the text of a number. -/
theorem isPlainChar_of_mem_plain {x : Number} (h : c ∈ x.plain.toList) : isPlainChar c = true := by
  cases x with
  | nan =>
    have hall : (plain .nan).toList.all isPlainChar = true := by decide
    exact List.all_eq_true.mp hall c h
  | infinite negative =>
    rw [plain, String.toList_ofList] at h
    rcases List.mem_append.mp h with h | h
    · exact isPlainChar_of_mem_signText h
    · have hall : ['i', 'n', 'f'].all isPlainChar = true := by decide
      exact List.all_eq_true.mp hall c h
  | finite negative mantissa exponent =>
    rw [plain, String.toList_ofList] at h
    rcases List.mem_append.mp h with h | h
    · exact isPlainChar_of_mem_signText h
    · exact isPlainChar_of_mem_decimal h

end Phrasebook.Number
