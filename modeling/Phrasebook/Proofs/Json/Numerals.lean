import Mathlib.Data.List.TakeWhile
import Phrasebook.Json.Reader
import Phrasebook.Proofs.Json.Strings
import Phrasebook.Proofs.Message.Tokens
import Phrasebook.Number.Plain

/-!
# Numerals as they are written

`NumeralText n a` says that the text `a` is the numeral `n` without its sign. A reader takes the text of a numeral from any
text in which it is not continued (`takes_readNumeral?`), so with its sign it is read as a value wherever it is written
(`takes_readValue?_numeral`). Whole numbers of 64 bits are the values of their numerals (`value?_integerNumeral`).
-/

namespace Phrasebook.Json

open Text Json.Tree
open Message (Stops takeWhile_append dropWhile_append stops_cons)

variable {rest s a b d : List Char} {c : Char} {n : Numeral}

/-! ## White space -/

/-- White space of JSON, or nothing. -/
def Spaces (b : List Char) : Prop := ∀ c ∈ b, isSpace c = true

/-- A character is read with the white space before it. -/
theorem takes_readNext? (hb : Spaces b) (hc : isSpace c = false) : Takes (readNext? (b ++ c :: rest)) c rest := by
  have hskip : skipSpace (b ++ c :: rest) = c :: rest := dropWhile_append hb (stops_cons hc)
  obtain ⟨below, hread⟩ := readAny?_cons hskip
  rw [readNext?, hread]
  exact takes_some_iff.mpr ⟨rfl, rfl⟩

/-! ## Parts of numerals -/

/-- One digit or more. -/
def IsDigits (d : List Char) : Prop := d ≠ [] ∧ ∀ c ∈ d, c.isDigit = true

/-- An integer part has no zero in front of other digits. -/
def IsIntegerPart (d : List Char) : Prop := IsDigits d ∧ ¬(d.head? = some '0' ∧ d.length ≠ 1)

/-- Decimals with their point. -/
inductive DecimalsText : List Char → List Char → Prop where
  | none : DecimalsText [] []
  | some {d : List Char} (hd : IsDigits d) : DecimalsText d ('.' :: d)

/-- An exponent with its letter and its sign. -/
inductive ExponentText : Option (Bool × List Char) → List Char → Prop where
  | none : ExponentText none []
  | unsigned {e : Char} {d : List Char} (he : e = 'e' ∨ e = 'E') (hd : IsDigits d) :
      ExponentText (some (false, d)) (e :: d)
  | plus {e : Char} {d : List Char} (he : e = 'e' ∨ e = 'E') (hd : IsDigits d) :
      ExponentText (some (false, d)) (e :: '+' :: d)
  | minus {e : Char} {d : List Char} (he : e = 'e' ∨ e = 'E') (hd : IsDigits d) :
      ExponentText (some (true, d)) (e :: '-' :: d)

/-- A numeral without its sign. -/
inductive NumeralText : Numeral → List Char → Prop where
  | mk {negative : Bool} {i d a b : List Char} {e : Option (Bool × List Char)} (hinteger : IsIntegerPart i)
      (hdecimals : DecimalsText d a) (hexponent : ExponentText e b) :
      NumeralText ⟨negative, i, d, e⟩ (i ++ (a ++ b))

/-- Can the character go on with a numeral? -/
def continuesNumeral (c : Char) : Bool := c.isDigit || c == '.' || c == 'e' || c == 'E'

theorem stops_isDigit (h : Stops continuesNumeral rest) : Stops Char.isDigit rest := fun c hc => by
  have := h c hc
  simp only [continuesNumeral, Bool.or_eq_false_iff] at this
  exact this.1.1.1

theorem IsDigits.head (hd : IsDigits d) : ∃ c tail, d = c :: tail ∧ c.isDigit = true := by
  obtain ⟨c, tail, rfl⟩ := List.exists_cons_of_ne_nil hd.1
  exact ⟨c, tail, rfl, hd.2 c List.mem_cons_self⟩

theorem takes_readDigits? (hd : IsDigits d) (hrest : Stops Char.isDigit rest) :
    Takes (readDigits? (d ++ rest)) d rest := by
  have htake : (d ++ rest).takeWhile Char.isDigit = d := takeWhile_append hd.2 hrest
  have hdrop : (d ++ rest).dropWhile Char.isDigit = rest := dropWhile_append hd.2 hrest
  rw [readDigits?, dif_neg (by rw [htake]; exact hd.1)]
  exact takes_some_iff.mpr ⟨htake, hdrop⟩

theorem takes_readInteger? (hd : IsIntegerPart d) (hrest : Stops Char.isDigit rest) :
    Takes (readInteger? (d ++ rest)) d rest := by
  refine (takes_readDigits? hd.1 hrest).bind fun below => ?_
  rw [if_neg hd.2]
  exact takes_some_iff.mpr ⟨rfl, rfl⟩

theorem takes_readDecimals? (hd : DecimalsText d a) (hrest : Stops Char.isDigit rest) (hpoint : rest.head? ≠ some '.') :
    Takes (readDecimals? (a ++ rest)) d rest := by
  cases hd with
  | none =>
    rw [List.nil_append, readDecimals?.eq_2 rest (fun _ h => hpoint (by rw [h]; rfl))]
    exact takes_some_iff.mpr ⟨rfl, rfl⟩
  | some hd =>
    rw [List.cons_append, readDecimals?]
    exact (takes_readDigits? hd hrest).bind fun below => takes_some_iff.mpr ⟨rfl, rfl⟩

theorem takes_readExponent? {e : Option (Bool × List Char)} (he : ExponentText e a)
    (hrest : Stops continuesNumeral rest) : Takes (readExponent? (a ++ rest)) e rest := by
  have hdigits : Stops Char.isDigit rest := stops_isDigit hrest
  cases he with
  | none =>
    cases rest with
    | nil => exact takes_some_iff.mpr ⟨rfl, rfl⟩
    | cons c rest =>
      have hc := hrest c rfl
      simp only [continuesNumeral, Bool.or_eq_false_iff, beq_eq_false_iff_ne] at hc
      rw [List.nil_append, readExponent?, if_neg (by simp [hc])]
      exact takes_some_iff.mpr ⟨rfl, rfl⟩
  | unsigned he hd =>
    rename_i mark digits
    obtain ⟨c, tail, htail, hc⟩ := hd.head
    have hsign : readSign (digits ++ rest) = Read.nothing false (digits ++ rest) := by
      rw [htail, List.cons_append, readSign.eq_3 _ (by rintro _ ⟨⟩; revert hc; decide)
        (by rintro _ ⟨⟩; revert hc; decide)]
    rw [List.cons_append, readExponent?, if_pos he]
    have hread : Takes (readDigits? (readSign (digits ++ rest)).rest) digits rest := by
      rw [hsign]
      exact takes_readDigits? hd hdigits
    refine hread.bind fun below => takes_some_iff.mpr ⟨?_, rfl⟩
    simp [hsign, Read.nothing]
  | plus he hd =>
    rw [List.cons_append, readExponent?, if_pos he]
    exact (takes_readDigits? hd hdigits).bind fun below => takes_some_iff.mpr ⟨rfl, rfl⟩
  | minus he hd =>
    rw [List.cons_append, readExponent?, if_pos he]
    exact (takes_readDigits? hd hdigits).bind fun below => takes_some_iff.mpr ⟨rfl, rfl⟩

/-! ## Numerals -/

/-- Digits end before an exponent, and decimals before it have their point. -/
theorem stops_exponentText {e : Option (Bool × List Char)} (he : ExponentText e b) (hrest : Stops continuesNumeral rest) :
    Stops Char.isDigit (b ++ rest) ∧ (b ++ rest).head? ≠ some '.' := by
  have hmark : ∀ mark t, mark = 'e' ∨ mark = 'E' →
      Stops Char.isDigit (mark :: t) ∧ (mark :: t).head? ≠ some '.' := by
    rintro mark t (rfl | rfl)
    · exact ⟨stops_cons (by decide), by simp⟩
    · exact ⟨stops_cons (by decide), by simp⟩
  cases he with
  | none =>
    refine ⟨stops_isDigit hrest, fun hpoint => ?_⟩
    have := hrest '.' hpoint
    revert this
    decide
  | unsigned he hd => exact hmark _ _ he
  | plus he hd => exact hmark _ _ he
  | minus he hd => exact hmark _ _ he

/-- The text of a numeral is read as this numeral if nothing continues it. -/
theorem takes_readNumeral? (hn : NumeralText n a) (hrest : Stops continuesNumeral rest) :
    Takes (readNumeral? n.negative (a ++ rest)) (.number n) rest := by
  cases hn with
  | mk hi hd he =>
    rename_i d a b e
    obtain ⟨hdigits, hpoint⟩ := stops_exponentText he hrest
    have hinteger : Stops Char.isDigit (a ++ (b ++ rest)) := by
      cases hd with
      | none => exact hdigits
      | some hd => exact stops_cons (by decide)
    rw [List.append_assoc, List.append_assoc]
    refine (takes_readInteger? hi hinteger).bind fun below₁ => ?_
    refine (takes_readDecimals? hd hdigits hpoint).bind fun below₂ => ?_
    exact (takes_readExponent? he hrest).bind fun below₃ => takes_some_iff.mpr ⟨rfl, rfl⟩

/-! ## Numbers as values -/

/-- Among the characters, only a digit begins a numeral without a sign. -/
theorem readAfter?_of_isDigit (hc : c.isDigit = true) (s : List Char) :
    readAfter? c s = readNumeral? false (c :: s) := by
  have hne : ∀ d : Char, d.isDigit = false → c ≠ d := by
    rintro d hd rfl
    rw [hc] at hd
    cases hd
  rw [readAfter?, if_neg (hne 'n' (by decide)), if_neg (hne 't' (by decide)), if_neg (hne 'f' (by decide)),
    if_neg (hne '"' (by decide)), if_neg (hne '-' (by decide)), if_neg (hne '[' (by decide)), if_neg (hne '{' (by decide))]

theorem isSpace_of_isDigit (hc : c.isDigit = true) : isSpace c = false := by
  cases hspace : isSpace c with
  | false => rfl
  | true =>
    simp only [isSpace, Bool.or_eq_true, beq_iff_eq] at hspace
    rcases hspace with ((rfl | rfl) | rfl) | rfl <;> revert hc <;> decide

/-- A numeral with its sign is read as a value. -/
theorem takes_readValue?_numeral (hn : NumeralText n a) (hb : Spaces b) (hrest : Stops continuesNumeral rest) :
    Takes (readValue? (b ++ (Number.signText n.negative ++ (a ++ rest)))) (.number n) rest := by
  have hread := takes_readNumeral? hn hrest
  rw [readValue?]
  cases hsign : n.negative with
  | true =>
    rw [hsign] at hread
    refine (takes_readNext? hb (by decide : isSpace '-' = false)).bind fun below => ?_
    have hafter : Takes (readAfter? '-' (a ++ rest)) (.number n) rest := by
      rw [readAfter?]
      exact hread.bind fun below => takes_some_iff.mpr ⟨rfl, rfl⟩
    exact hafter.bind fun below => takes_some_iff.mpr ⟨rfl, rfl⟩
  | false =>
    rw [hsign] at hread
    obtain ⟨c, tail, htail, hc⟩ : ∃ c tail, a = c :: tail ∧ c.isDigit = true := by
      cases hn with
      | mk hi hd he =>
        obtain ⟨c, tail, rfl, hc⟩ := hi.1.head
        exact ⟨c, _, rfl, hc⟩
    subst htail
    refine (takes_readNext? hb (isSpace_of_isDigit hc)).bind fun below => ?_
    have hafter : Takes (readAfter? c (tail ++ rest)) (.number n) rest := by
      rw [readAfter?_of_isDigit hc]
      exact hread
    exact hafter.bind fun below => takes_some_iff.mpr ⟨rfl, rfl⟩

/-! ## Whole numbers -/

/-- The whole numbers that a reader keeps whole. -/
def FitsInteger (k : Int) : Prop := -0x8000000000000000 ≤ k ∧ k ≤ 0xffffffffffffffff

/-- The numeral of a whole number. -/
def integerNumeral (k : Int) : Numeral := ⟨k < 0, Number.digitsOf k.natAbs, [], none⟩

theorem decimalNumber_digitsOf (k : Nat) : decimalNumber (Number.digitsOf k) = k :=
  Nat.ofDigitChars_toDigits (by decide) (by decide)

/-- No zero stands in front of the digits of a number. -/
theorem head?_digitsOf {k : Nat} (hk : k ≠ 0) : (Number.digitsOf k).head? ≠ some '0' := by
  induction k using Nat.strongRecOn with
  | ind k ih =>
    rw [Number.digitsOf, Nat.toDigits_eq_if (by decide)]
    split
    · next hlt => simpa using hk
    · next hge =>
      have hhead : (Nat.toDigits 10 (k / 10)).head? ≠ some '0' := ih (k / 10) (by omega) (by omega)
      rw [List.head?_append]
      cases hcase : (Nat.toDigits 10 (k / 10)).head? with
      | none => exact absurd (List.head?_eq_none_iff.mp hcase) Nat.toDigits_ne_nil
      | some c => rwa [hcase] at hhead

theorem isIntegerPart_digitsOf (k : Nat) : IsIntegerPart (Number.digitsOf k) := by
  refine ⟨⟨Nat.toDigits_ne_nil, fun c hc => Nat.isDigit_of_mem_toDigits (by decide) (by decide) hc⟩, ?_⟩
  rintro ⟨hhead, hlength⟩
  by_cases hk : k = 0
  · subst hk
    exact hlength rfl
  · exact head?_digitsOf hk hhead

theorem numeralText_integerNumeral (k : Int) : NumeralText (integerNumeral k) (Number.digitsOf k.natAbs) := by
  have h : NumeralText (integerNumeral k) (Number.digitsOf k.natAbs ++ ([] ++ [])) :=
    .mk (isIntegerPart_digitsOf k.natAbs) .none .none
  rwa [List.append_nil, List.append_nil] at h

/-- A whole number that fits is the value of its numeral. -/
theorem value?_integerNumeral {k : Int} (hk : FitsInteger k) : (integerNumeral k).value? = some (.integer k) := by
  obtain ⟨hleast, hgreatest⟩ := hk
  have hwhole : (integerNumeral k).whole? = some k := by
    simp only [Numeral.whole?, integerNumeral, Numeral.isWhole, decimalNumber_digitsOf, List.isEmpty_nil, Option.isNone_none,
      Bool.and_self, if_true, decide_eq_true_eq, Numeral.maxSignificand]
    split
    · rw [if_neg (by omega)]
      exact congrArg some (by omega)
    · rw [if_pos (by omega)]
      exact congrArg some (by omega)
  rw [Numeral.value?, hwhole]

/-- A whole number that a numeral names fits. -/
theorem fitsInteger_of_value? {k : Int} (h : n.value? = some (.integer k)) : FitsInteger k := by
  unfold Numeral.value? at h
  split at h
  · next k' hwhole =>
    obtain rfl : k' = k := by simpa using h
    simp only [Numeral.whole?, Numeral.maxSignificand] at hwhole
    unfold FitsInteger
    grind
  · simp at h

end Phrasebook.Json
