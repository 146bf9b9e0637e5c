import Phrasebook.Proofs.Json.Numerals
import Phrasebook.Proofs.Number.Shortest

/-!
# Real numbers as they are written

What a numeral is read as has 53 binary places at most (`inRange_of_real?`), and such a number is written as a numeral that is
not past all numbers (`exists_numeral`). It need not be read as the same number: the digits and the power of ten of the numeral
are rounded each by itself, and what they make again.
-/

namespace Phrasebook.Json

open Text Number Numeral

variable {n : Numeral} {x : Number} {d : Decimal} {k digits : Nat} {e : Int}

theorem natCast_lt_overflow (h : digits < 2 ^ 64) : (digits : ℚ) < overflow := by
  have hcast : (digits : ℚ) < 2 ^ 64 := by exact_mod_cast h
  have hone : (1 : ℚ) ≤ 2 ^ (950 : Int) := one_le_zpow₀ (by norm_num) (by decide)
  have hsplit : (2 : ℚ) ^ (970 : Int) = 2 ^ (950 : Int) * 2 ^ 20 := by
    rw [← zpow_natCast, ← zpow_add₀ (by norm_num)]
    rfl
  rw [overflow, hsplit]
  generalize (2 : ℚ) ^ (950 : Int) = rest at hone
  linarith

/-! ## Powers of ten -/

/-- Half a last place below the greatest number. -/
def almostGreatest : Nat := (2 ^ 54 - 3) * 2 ^ 970

/-- The most that can stand before a power of ten in a shortest decimal, if this is not the one of the greatest number. -/
def mostDigits (k : Nat) : Nat := min (10 ^ 17) (almostGreatest / 10 ^ k)

/-- The number is one at least, and what is made of it and the most digits is not past all numbers. -/
def BearsDigits (k : Nat) : Number → Prop
  | .finite _ n f =>
    pow2 (-f) ≤ n * pow2 f ∧
      (mostDigits k + mostDigits k / 2 ^ 53) * (n * pow2 f) < (2 ^ 54 - 1) * 2 ^ 970 * pow2 (-f)
  | _ => False

instance (k : Nat) : DecidablePred (BearsDigits k)
  | .nan => instDecidableFalse
  | .infinite _ => instDecidableFalse
  | .finite .. => inferInstanceAs (Decidable (_ ∧ _))

theorem ten_table : ∀ k ∈ List.range 309, (ofDecimal false 1 k).InRange ∧ BearsDigits k (ofDecimal false 1 k) := by
  decide +kernel

/-- A power of ten that is rounded is a number, one at least, and bears the most digits that stand before it. -/
theorem ten_spec (hlow : 0 ≤ e) (hhigh : e ≤ 308) : (ofDecimal false 1 e).InRange ∧ 1 ≤ (ofDecimal false 1 e).magnitude ∧
    ((mostDigits e.toNat + mostDigits e.toNat / 2 ^ 53 : Nat) : ℚ) * (ofDecimal false 1 e).magnitude < overflow := by
  obtain ⟨hrange, hbears⟩ := ten_table e.toNat (List.mem_range.mpr (by omega))
  rw [Int.toNat_of_nonneg hlow] at hrange hbears
  refine ⟨hrange, ?_⟩
  obtain ⟨negative, m, e, hx⟩ := hrange.exists_finite
  rw [hx, BearsDigits] at hbears
  rw [hx, magnitude]
  generalize mostDigits e.toNat + mostDigits e.toNat / 2 ^ 53 = most at hbears ⊢
  obtain ⟨hone, hmost⟩ := hbears
  have hpos := cast_pow2_pos (-e)
  have hvalue : (m * pow2 e : ℚ) = m * 2 ^ e * pow2 (-e) := by rw [cast_pow2 e, mul_assoc]
  constructor
  · rw [← mul_le_mul_iff_left₀ hpos, one_mul, ← hvalue]
    exact_mod_cast hone
  · have hoverflow : overflow = ((2 ^ 54 - 1) * 2 ^ 970 : Nat) := by
      rw [overflow, Nat.cast_mul, Nat.cast_pow, Nat.cast_ofNat, ← zpow_natCast 2 970]
      norm_num
    rw [← mul_lt_mul_iff_left₀ hpos, hoverflow, mul_assoc, ← hvalue]
    exact_mod_cast hmost

/-! ## Scaling -/

theorem inRange_div_ten (hx : x.InRange) (hlow : 0 ≤ e) (hhigh : e ≤ 308) : (x.div (ofDecimal false 1 e)).InRange :=
  hx.div (ten_spec hlow hhigh).1 (ten_spec hlow hhigh).2.1

/-- Scaling by no negative power gives a product, if it is not past all numbers. -/
theorem scale?_of_nonneg (hlow : 0 ≤ e) (hhigh : e ≤ 308) (h : (x.mul (ofDecimal false 1 e)).InRange) :
    scale? x e = some (x.mul (ofDecimal false 1 e)) := by
  obtain ⟨negative, m, f, hx⟩ := h.exists_finite
  rw [scale?, if_neg (not_lt.mpr hhigh), if_pos hlow, hx]

/-- Scaling by a negative power always gives something. -/
theorem isSome_scale?_of_neg (he : e < 0) : (scale? x e).isSome = true := by
  fun_induction scale? x e with
  | case1 | case2 => omega
  | case3 | case4 => omega
  | case5 | case6 => rfl
  | case7 x e hlarge hneg hless hzero ih => exact ih (by omega)

/-- What scaling gives is a number. -/
theorem inRange_of_scale? {y : Number} (hx : x.InRange) (h : scale? x e = some y) : y.InRange := by
  fun_induction scale? x e with
  | case1 | case6 =>
    obtain rfl := Option.some.inj h
    exact hx
  | case2 | case3 => cases h
  | case4 x e hlarge hle hfinite =>
    obtain rfl := Option.some.inj h
    refine (hx.mul_inRange_or (ten_spec hle (not_lt.mp hlarge)).1).resolve_right ?_
    rintro ⟨negative, hinfinite⟩
    exact hfinite negative hinfinite
  | case5 x e hlarge hneg hle =>
    obtain rfl := Option.some.inj h
    exact inRange_div_ten hx (by omega) (by omega)
  | case7 x e hlarge hneg hless hzero ih =>
    exact ih (inRange_div_ten hx (by decide) le_rfl) h

theorem mostDigits_anti {j : Nat} (h : j ≤ k) : mostDigits k ≤ mostDigits j :=
  min_le_min_left _ (Nat.div_le_div_left (Nat.pow_le_pow_right (by decide) h) (Nat.pow_pos (by decide)))

/-- A decimal of 17 digits that is not zero can be scaled if it is half a last place below the greatest number at most. -/
theorem isSome_scale?_ofNat (hzero : digits ≠ 0) (hdigits : digits ≤ 10 ^ 17)
    (h : (digits : ℚ) * 10 ^ e ≤ almostGreatest) : (scale? (ofNat digits) e).isSome = true := by
  rcases Int.lt_or_le e 0 with hneg | hpos
  · exact isSome_scale?_of_neg hneg
  have hmost : digits ≤ mostDigits e.toNat := by
    refine Nat.le_min.mpr ⟨hdigits, (Nat.le_div_iff_mul_le (Nat.pow_pos (by decide))).mpr ?_⟩
    rw [← Int.toNat_of_nonneg hpos, zpow_natCast] at h
    exact_mod_cast h
  have hhigh : e ≤ 308 := by
    by_contra hlarge
    have hnone : mostDigits 309 = 0 := by decide +kernel
    have hanti := mostDigits_anti (j := 309) (k := e.toNat) (by omega)
    omega
  obtain ⟨hrange, -, hbears⟩ := ten_spec hpos hhigh
  have hless : (digits : ℚ) < overflow := natCast_lt_overflow (hdigits.trans_lt (by decide))
  have hround : (ofNat digits).magnitude ≤ (mostDigits e.toNat + mostDigits e.toNat / 2 ^ 53 : Nat) :=
    (magnitude_ofNat_le hless).trans (Nat.cast_le.mpr (Nat.add_le_add hmost (Nat.div_le_div_right hmost)))
  have hproduct : ((ofNat digits).mul (ofDecimal false 1 e)).InRange :=
    (inRange_ofNat hless).mul hrange ((mul_le_mul_of_nonneg_right hround (magnitude_nonneg _)).trans_lt hbears)
  rw [scale?_of_nonneg hpos hhigh hproduct]
  rfl

/-! ## Significands -/

theorem decimalNumber_append (a b : List Char) :
    decimalNumber (a ++ b) = 10 ^ b.length * decimalNumber a + decimalNumber b := by
  simp only [decimalNumber, ← Nat.ofDigitChars_eq_foldl]
  rw [Nat.ofDigitChars_append, Nat.ofDigitChars_eq_ofDigitChars_zero]

theorem decimalNumber_zeros (k : Nat) : decimalNumber (zeros k) = 0 := by
  simp only [decimalNumber, ← Nat.ofDigitChars_eq_foldl, zeros]
  rw [Nat.ofDigitChars_replicate_zero, Nat.mul_zero]

/-- Digits that fit are all in the significand. -/
theorem significand_eq {start : Nat} {s : List Char} (h : Nat.ofDigitChars 10 s start ≤ maxSignificand) :
    significand start s = (Nat.ofDigitChars 10 s start, []) := by
  induction s generalizing start with
  | nil => rfl
  | cons c s ih =>
    rw [Nat.ofDigitChars_cons] at h ⊢
    have hnext : 10 * start + (c.toNat - '0'.toNat) ≤ maxSignificand := by
      refine le_trans ?_ h
      rw [Nat.ofDigitChars_eq_ofDigitChars_zero]
      exact Nat.le_add_right_of_le (Nat.le_mul_of_pos_left _ (Nat.pow_pos (by decide)))
    rw [significand, if_neg (not_lt.mpr hnext)]
    exact ih h

theorem significand_le {start : Nat} (h : start ≤ maxSignificand) (s : List Char) :
    (significand start s).1 ≤ maxSignificand := by
  induction s generalizing start with
  | nil => exact h
  | cons c s ih =>
    rw [significand]
    split
    · exact h
    · next hnext => exact ih (not_lt.mp hnext)

theorem inRange_signed (negative : Bool) (h : x.InRange) : (signed negative x).InRange := by
  obtain ⟨-, hm, hlow, hhigh⟩ := h
  exact .finite negative hm hlow hhigh

/-- A numeral is read as a number. -/
theorem inRange_of_real? (h : n.real? = some x) : x.InRange := by
  obtain ⟨y, hy, rfl⟩ := Option.map_eq_some_iff.mp h
  have hwhole := significand_le (Nat.zero_le maxSignificand) n.integer
  have hall := significand_le hwhole n.decimals
  exact inRange_signed _ (inRange_of_scale? (inRange_ofNat (natCast_lt_overflow (hall.trans_lt (by decide)))) hy)

theorem inRange_of_value? (h : n.value? = some (.real x)) : x.InRange := by
  unfold Numeral.value? at h
  split at h
  · cases h
  · obtain ⟨y, hy, hreal⟩ := Option.map_eq_some_iff.mp h
    obtain rfl := Json.real.inj hreal
    exact inRange_of_real? hy

/-- A numeral whose digits fit is read from all of them. -/
theorem real?_eq (h : decimalNumber (n.integer ++ n.decimals) ≤ maxSignificand) :
    n.real? = (scale? (.ofNat (decimalNumber (n.integer ++ n.decimals))) (n.writtenExponent - n.decimals.length)).map
      (signed n.negative) := by
  have heq : ∀ s, decimalNumber s = Nat.ofDigitChars 10 s 0 := fun _ => Nat.ofDigitChars_eq_foldl.symm
  have hinteger : decimalNumber n.integer ≤ maxSignificand := by
    rw [decimalNumber_append] at h
    exact (Nat.le_mul_of_pos_left _ (Nat.pow_pos (by decide))).trans ((Nat.le_add_right ..).trans h)
  rw [heq] at hinteger h ⊢
  rw [Nat.ofDigitChars_append] at h ⊢
  simp only [real?, significand_eq hinteger, significand_eq h, List.length_nil]
  congr 2
  push_cast
  ring

/-! ## Decimals as numerals -/

theorem isDigits_digitsOf (k : Nat) : IsDigits (digitsOf k) := (isIntegerPart_digitsOf k).1

theorem isDigits_zero : IsDigits ['0'] := by simp [IsDigits]

theorem isDigit_zeros {c : Char} (h : c ∈ zeros k) : c.isDigit = true := by
  rw [List.eq_of_mem_replicate h]
  decide

/-- Digits that begin like a number other than zero are an integer part. -/
theorem isIntegerPart_of_head? {a : List Char} (hdigits : ∀ c ∈ a, c.isDigit = true) (hne : digits ≠ 0)
    (h : a.head? = (digitsOf digits).head?) : IsIntegerPart a := by
  refine ⟨⟨?_, hdigits⟩, fun hzero => head?_digitsOf hne (h.symm.trans hzero.1)⟩
  rintro rfl
  exact (isDigits_digitsOf digits).1 (List.head?_eq_none_iff.mp h.symm)

/-- A text is a numeral of at most 17 digits that names a decimal, or has a negative power of ten. -/
structure Spells (d : Decimal) (a : List Char) (n : Numeral) : Prop where
  text : NumeralText n a
  notWhole : n.isWhole = false
  digits_le : decimalNumber (n.integer ++ n.decimals) ≤ 10 ^ 17
  value : n.writtenExponent - n.decimals.length < 0 ∨
    decimalNumber (n.integer ++ n.decimals) = d.digits ∧ n.writtenExponent - n.decimals.length = d.exponent

/-- A numeral with decimals and without an exponent. -/
theorem spells_pointed {negative : Bool} {i b : List Char} (hinteger : IsIntegerPart i) (hdecimals : IsDigits b)
    (hdigits : decimalNumber (i ++ b) ≤ 10 ^ 17) : Spells d (i ++ '.' :: b) ⟨negative, i, b, none⟩ := by
  have hlength : 0 < b.length := List.length_pos_iff.mpr hdecimals.1
  refine ⟨by simpa using NumeralText.mk hinteger (.some hdecimals) .none, ?_, hdigits, .inl ?_⟩
  · simp [isWhole, hdecimals.1]
  · simp only [writtenExponent]
    omega

/-- Zeros stand up to the point, and one behind it. -/
theorem spells_padded (negative : Bool) (hpos : 0 ≤ d.exponent) (hzero : d.digits = 0 → d.exponent = 0)
    (hlead : d.exponent + ((digitsOf d.digits).length - 1) ≤ 15) :
    Spells d (digitsOf d.digits ++ zeros d.exponent.toNat ++ ['.', '0'])
      ⟨negative, digitsOf d.digits ++ zeros d.exponent.toNat, ['0'], none⟩ := by
  obtain ⟨hne, hall⟩ := isDigits_digitsOf d.digits
  have hlength : 0 < (digitsOf d.digits).length := List.length_pos_iff.mpr hne
  have hinteger : IsIntegerPart (digitsOf d.digits ++ zeros d.exponent.toNat) := by
    by_cases hdigits : d.digits = 0
    · rw [hzero hdigits, Int.toNat_zero, zeros, List.replicate_zero, List.append_nil]
      exact isIntegerPart_digitsOf _
    · refine isIntegerPart_of_head? (fun c hc => ?_) hdigits (List.head?_append_of_ne_nil _ hne)
      exact (List.mem_append.mp hc).elim (hall c) isDigit_zeros
  refine spells_pointed hinteger isDigits_zero ?_
  -- sixteen digits stand before the point at most
  have hless : d.digits < 10 ^ (16 - d.exponent.toNat) := by
    refine (Nat.length_toDigits_le_iff (by decide) (by omega)).mp ?_
    change (digitsOf d.digits).length ≤ _
    omega
  have hpow : 10 ^ d.exponent.toNat * 10 ^ (16 - d.exponent.toNat) = 10 ^ 16 := by
    rw [← pow_add]
    congr 1
    omega
  have hshifted : 10 ^ d.exponent.toNat * d.digits ≤ 10 ^ 16 := hpow ▸ Nat.mul_le_mul_left _ hless.le
  have hone : decimalNumber ['0'] = 0 := rfl
  rw [decimalNumber_append, decimalNumber_append, decimalNumber_zeros, decimalNumber_digitsOf, zeros,
    List.length_replicate, hone, List.length_singleton]
  omega

/-- The point stands among the digits. -/
theorem spells_split (negative : Bool) (hdigits : d.digits ≤ 10 ^ 17) (hne : d.digits ≠ 0) {front : Nat} (hfront : 0 < front)
    (hlength : front < (digitsOf d.digits).length) :
    Spells d ((digitsOf d.digits).take front ++ '.' :: (digitsOf d.digits).drop front)
      ⟨negative, (digitsOf d.digits).take front, (digitsOf d.digits).drop front, none⟩ := by
  have hall := (isDigits_digitsOf d.digits).2
  refine spells_pointed ?_ ⟨fun hnil => ?_, fun c hc => hall c (List.mem_of_mem_drop hc)⟩ ?_
  · refine isIntegerPart_of_head? (fun c hc => hall c (List.mem_of_mem_take hc)) hne ?_
    rw [List.head?_take, if_neg hfront.ne']
  · exact absurd (List.drop_eq_nil_iff.mp hnil) (not_le.mpr hlength)
  · rwa [List.take_append_drop, decimalNumber_digitsOf]

/-- Zeros stand behind the point. -/
theorem spells_small (negative : Bool) (hdigits : d.digits ≤ 10 ^ 17) (k : Nat) :
    Spells d ('0' :: '.' :: (zeros k ++ digitsOf d.digits)) ⟨negative, ['0'], zeros k ++ digitsOf d.digits, none⟩ := by
  obtain ⟨hne, hall⟩ := isDigits_digitsOf d.digits
  have hdecimals : IsDigits (zeros k ++ digitsOf d.digits) :=
    ⟨List.append_ne_nil_of_right_ne_nil _ hne, fun c hc => (List.mem_append.mp hc).elim isDigit_zeros (hall c)⟩
  refine spells_pointed (i := ['0']) ⟨isDigits_zero, by decide⟩ hdecimals ?_
  have hone : decimalNumber ['0'] = 0 := rfl
  rw [decimalNumber_append, decimalNumber_append, decimalNumber_zeros, decimalNumber_digitsOf, hone]
  omega

theorem exponentText_exponentText (e : Int) :
    ExponentText (some (decide (e < 0), digitsOf e.natAbs)) ('e' :: exponentText e) := by
  unfold exponentText
  split
  · next hneg =>
    rw [decide_eq_true hneg]
    exact .minus (.inl rfl) (isDigits_digitsOf _)
  · next hpos =>
    rw [decide_eq_false hpos]
    exact .plus (.inl rfl) (isDigits_digitsOf _)

/-- The point stands behind the first digit. -/
theorem spells_scientific (negative : Bool) (hdigits : d.digits ≤ 10 ^ 17) {lead : Int}
    (hlead : lead = d.exponent + ((digitsOf d.digits).length - 1)) :
    Spells d (pointAfterFirst (digitsOf d.digits) ++ 'e' :: exponentText lead)
      ⟨negative, (digitsOf d.digits).take 1, (digitsOf d.digits).drop 1, some (lead < 0, digitsOf lead.natAbs)⟩ := by
  obtain ⟨hne, hall⟩ := isDigits_digitsOf d.digits
  have hlength : 0 < (digitsOf d.digits).length := List.length_pos_iff.mpr hne
  refine ⟨?_, by simp [isWhole], ?_, .inr ⟨?_, ?_⟩⟩
  · obtain ⟨c, rest, hcons⟩ := List.exists_cons_of_ne_nil hne
    rw [hcons] at hall ⊢
    have hinteger : IsIntegerPart [c] := ⟨⟨by simp, fun c' hc' => hall c' (by simp_all)⟩, by simp⟩
    cases rest with
    | nil => exact .mk hinteger .none (exponentText_exponentText lead)
    | cons c' rest =>
      have hdecimals : IsDigits (c' :: rest) := ⟨by simp, fun b hb => hall b (List.mem_cons_of_mem _ hb)⟩
      simpa [pointAfterFirst] using NumeralText.mk hinteger (.some hdecimals) (exponentText_exponentText lead)
  · rwa [List.take_append_drop, decimalNumber_digitsOf]
  · rw [List.take_append_drop, decimalNumber_digitsOf]
  · have hwritten : writtenExponent ⟨negative, (digitsOf d.digits).take 1, (digitsOf d.digits).drop 1,
        some (decide (lead < 0), digitsOf lead.natAbs)⟩ = lead := by
      simp only [writtenExponent, decimalNumber_digitsOf, decide_eq_true_eq]
      split <;> omega
    rw [hwritten, List.length_drop]
    omega

/-- A decimal of 17 digits at most is written as a numeral, if zero has no exponent. -/
theorem exists_spells (negative : Bool) (hdigits : d.digits ≤ 10 ^ 17) (hzero : d.digits = 0 → d.exponent = 0) :
    ∃ n, n.negative = negative ∧ Spells d (writeDecimal d) n := by
  unfold writeDecimal Decimal.plain
  simp only
  split
  · next hlead =>
    split
    · next hpos => exact ⟨_, rfl, spells_padded negative hpos hzero hlead.2⟩
    · next hneg =>
      split
      · next hplaces =>
        have hne : d.digits ≠ 0 := fun h => hneg (hzero h).ge
        exact ⟨_, rfl, spells_split negative hdigits hne (by omega) (by omega)⟩
      · exact ⟨_, rfl, spells_small negative hdigits _⟩
  · exact ⟨_, rfl, spells_scientific negative hdigits rfl⟩

/-! ## Reading again -/

/-- The greatest number is written with 17 digits. -/
theorem isSome_scale?_greatest : (shortest .toEven (2 ^ 53 - 1) 971) = ⟨17976931348623157, 292⟩ ∧
    (scale? (ofNat 17976931348623157) 292).isSome = true := by
  have hproduct : ((ofNat 17976931348623157).mul (ofDecimal false 1 292)).InRange := by decide +kernel
  refine ⟨by decide +kernel, ?_⟩
  rw [scale?_of_nonneg (by decide) (by decide) hproduct]
  rfl

/-- A number can be scaled from its shortest decimal. -/
theorem isSome_scale?_shortest {m : Nat} (hm : m ≠ 0) (h : (Number.finite false m e).InRange) :
    (scale? (ofNat (shortest .toEven m e).digits) (shortest .toEven m e).exponent).isSome = true := by
  by_cases hgreatest : m = 2 ^ 53 - 1 ∧ e = 971
  · obtain ⟨rfl, rfl⟩ := hgreatest
    rw [isSome_scale?_greatest.1]
    exact isSome_scale?_greatest.2
  · obtain ⟨hne, hle, hvalue⟩ := shortest_spec .toEven hm h
    refine isSome_scale?_ofNat hne hle (hvalue.trans ?_)
    obtain ⟨-, hless, -, hhigh⟩ := h
    have hcast : (almostGreatest : ℚ) = (2 ^ 54 - 3) * 2 ^ (970 : Int) := by
      rw [almostGreatest, Nat.cast_mul, Nat.cast_pow, ← zpow_natCast]
      norm_num
    rw [hcast]
    rcases Int.lt_or_le e 971 with hlow | htop
    · have hmantissa : (m : ℚ) + 1 / 2 ≤ 2 ^ 54 - 3 := by
        have : (m : ℚ) ≤ 2 ^ 53 := by exact_mod_cast hless.le
        linarith
      have hpower : (2 : ℚ) ^ e ≤ 2 ^ (970 : Int) := zpow_le_zpow_right₀ (by norm_num) (by omega)
      have hnonneg : (0 : ℚ) ≤ m + 1 / 2 := by positivity
      calc (m : ℚ) * 2 ^ e + 2 ^ e / 2 = (m + 1 / 2) * 2 ^ e := by ring
        _ ≤ _ := mul_le_mul hmantissa hpower (by positivity) (by norm_num)
    · obtain rfl : e = 971 := le_antisymm hhigh htop
      have hmantissa : (m : ℚ) ≤ 2 ^ 53 - 2 := by
        rw [le_sub_iff_add_le]
        exact_mod_cast (show m + 2 ≤ 2 ^ 53 by omega)
      have hpower : (2 : ℚ) ^ (971 : Int) = 2 ^ (970 : Int) * 2 := zpow_add_one₀ (by norm_num) 970
      have hpos : (0 : ℚ) ≤ 2 ^ (970 : Int) := by positivity
      rw [hpower]
      generalize (2 : ℚ) ^ (970 : Int) = unit at hpos
      have hmul := mul_le_mul_of_nonneg_right hmantissa hpos
      linarith

/-- The number reads back where it is written by itself. -/
def ReadsBack (x : Number) : Prop := read? (Json.real x).compact = some (.real x)

instance (x : Number) : Decidable (ReadsBack x) :=
  decidable_of_iff ((match read? (Json.real x).compact with
      | some (.real y) => y == x
      | _ => false) = true) <| by
    unfold ReadsBack
    split
    · next y h => simp [h]
    · next h => simpa using h x

/-- What a number is read as that was written. -/
def rereadNumber (x : Number) : Number :=
  match read? (Json.real x).compact with
  | some (.real y) => y
  | _ => x

theorem ReadsBack.rereadNumber_eq (h : ReadsBack x) : rereadNumber x = x := by rw [rereadNumber, h]

/-- The numeral that a number is written as is read again. -/
theorem treeRead?_compact_real {a : List Char} (hn : NumeralText n a) (htext : writeReal x = signText n.negative ++ a) :
    Tree.read? (Json.real x).compact = some (.number n) := by
  have htakes : Takes (Tree.readValue? ([] ++ (signText n.negative ++ (a ++ [])))) (.number n) [] :=
    takes_readValue?_numeral hn (fun _ h => absurd h List.not_mem_nil) nofun
  have hlist : (Json.real x).compact.toList = [] ++ (signText n.negative ++ (a ++ [])) := by
    rw [compact, text, String.toList_ofList, write, htext, List.append_nil, List.nil_append]
  rw [← hlist] at htakes
  obtain ⟨below, hread⟩ := htakes
  rw [Tree.read?, hread]
  rfl

/-- A number is read as the value of the numeral that it is written as. -/
theorem rereadNumber_eq {a : List Char} {y : Number} (hn : NumeralText n a) (htext : writeReal x = signText n.negative ++ a)
    (hvalue : n.value? = some (.real y)) : rereadNumber x = y := by
  have htree := treeRead?_compact_real hn htext
  have hdepth : (Tree.number n).depth ≤ maxDepth := Nat.zero_le _
  have hwhole : read? (Json.real x).compact = some (.real y) := by
    rw [read?, htree, Option.bind_eq_bind, Option.bind_some, if_pos hdepth, Tree.value?, hvalue]
  rw [rereadNumber, hwhole]

/-- A shortest decimal has 17 digits at most, is zero only without an exponent, and can be scaled. -/
theorem shortest_scales {negative : Bool} {m : Nat} (h : (Number.finite negative m e).InRange) (hd : d = shortest .toEven m e) :
    d.digits ≤ 10 ^ 17 ∧ (d.digits = 0 → d.exponent = 0) ∧ (scale? (ofNat d.digits) d.exponent).isSome = true := by
  subst hd
  by_cases hm : m = 0
  · subst hm
    have hproduct : ((ofNat 0).mul (ofDecimal false 1 0)).InRange := by decide
    rw [shortest, if_pos rfl, scale?_of_nonneg (by decide) (by decide) hproduct]
    exact ⟨Nat.zero_le _, fun _ => rfl, rfl⟩
  · obtain ⟨-, hless, hlow, hhigh⟩ := h
    have hrange : (Number.finite false m e).InRange := .finite false hless hlow hhigh
    obtain ⟨hne, hle, -⟩ := shortest_spec .toEven hm hrange
    exact ⟨hle, fun hzero => absurd hzero hne, isSome_scale?_shortest hm hrange⟩

/-- A number is written as a numeral that names what it is read as. -/
theorem exists_numeral (h : x.InRange) :
    ∃ n a, NumeralText n a ∧ writeReal x = signText n.negative ++ a ∧ n.value? = some (.real (rereadNumber x)) := by
  obtain ⟨negative, m, e, rfl⟩ := h.exists_finite
  obtain ⟨d, hd⟩ : ∃ d, d = shortest .toEven m e := ⟨_, rfl⟩
  obtain ⟨hdigits, hzero, hscale⟩ := shortest_scales h hd
  obtain ⟨n, hnegative, hspells⟩ := exists_spells negative hdigits hzero
  have hscaled : (scale? (ofNat (decimalNumber (n.integer ++ n.decimals)))
      (n.writtenExponent - n.decimals.length)).isSome = true := by
    rcases hspells.value with hneg | ⟨hsame, hexponent⟩
    · exact isSome_scale?_of_neg hneg
    · rwa [hsame, hexponent]
  obtain ⟨y, hy⟩ := Option.isSome_iff_exists.mp hscaled
  have hvalue : n.value? = some (.real (signed n.negative y)) := by
    have hnone : n.whole? = none := by rw [Numeral.whole?, hspells.notWhole]; rfl
    rw [Numeral.value?, hnone, real?_eq (hspells.digits_le.trans (by decide)), hy]
    rfl
  have htext : writeReal (.finite negative m e) = signText n.negative ++ writeDecimal d := by rw [writeReal, hnegative, hd]
  exact ⟨n, _, hspells.text, htext, by rw [rereadNumber_eq hspells.text htext hvalue, hvalue]⟩

end Phrasebook.Json
