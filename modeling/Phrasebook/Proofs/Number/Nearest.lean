import Phrasebook.Proofs.Number.Rounding

/-!
# The number nearest to a ratio

What a ratio is rounded to is a multiple of the ratio's last binary place, half of it away at most (`isNearest_ofRatio`), if the
ratio is not past all numbers (`ofRatio_of_overflow_le`). So what is a number already stays as it is (`IsNearest.eq_self`), whole
numbers stay whole (`IsNearest.exists_natCast`), and the rest changes by one part in `2 ^ 53` at most (`IsNearest.abs_sub_le`).
-/

namespace Phrasebook.Number

variable {negative : Bool} {num den m n k : Nat} {e place place' : Int} {x y : Number} {r v : ℚ}

/-- Every place is worth something. -/
theorem two_zpow_pos (place : Int) : (0 : ℚ) < 2 ^ place := by positivity

/-- A significand of 53 places is `2 ^ 52` at least. -/
theorem le_mul_zpow (hm : 2 ^ 52 ≤ m) (e : Int) : (2 : ℚ) ^ (e + 52) ≤ m * 2 ^ e := by
  rw [add_comm, zpow_add₀ (by norm_num)]
  refine mul_le_mul_of_nonneg_right ?_ (two_zpow_pos e).le
  exact_mod_cast hm

/-- A significand of 53 places is below `2 ^ 53`. -/
theorem mul_zpow_lt (hm : m < 2 ^ 53) (e : Int) : (m : ℚ) * 2 ^ e < 2 ^ (e + 53) := by
  rw [add_comm, zpow_add₀ (by norm_num)]
  refine mul_lt_mul_of_pos_right ?_ (two_zpow_pos e)
  exact_mod_cast hm

/-! ## The last place -/

/-- The last binary place of the numbers around `r`: 53 places hold its first digits, unless it is the least place of all. -/
structure IsLastPlace (r : ℚ) (place : Int) : Prop where
  least : -1074 ≤ place
  first : place = -1074 ∨ (2 : ℚ) ^ (place + 52) ≤ r
  fits : r < 2 ^ (place + 53)

/-- The last place of a smaller ratio is not higher. -/
theorem IsLastPlace.le (h : IsLastPlace r place) (hr : r < 2 ^ (e + 53)) (he : -1074 ≤ e) : place ≤ e := by
  rcases h.first with rfl | hfirst
  · exact he
  · have hless := (zpow_lt_zpow_iff_right₀ (by norm_num : (1 : ℚ) < 2)).mp (hfirst.trans_lt hr)
    omega

/-- A ratio has one last place only. -/
theorem IsLastPlace.unique (h : IsLastPlace r place) (h' : IsLastPlace r place') : place = place' :=
  le_antisymm (h.le h'.fits h'.least) (h'.le h.fits h.least)

/-- The place that a ratio is rounded at is its last place. -/
theorem isLastPlace_max (hnum : num ≠ 0) (hden : 0 < den) : IsLastPlace (num / den) (max (lastPlace num den) (-1074)) := by
  obtain ⟨hfirst, hfits⟩ := lastPlace_spec hnum hden
  refine ⟨le_max_right .., ?_, hfits.trans_le ?_⟩
  · rcases max_choice (lastPlace num den) (-1074) with h | h
    · exact .inr (by rwa [h])
    · exact .inl h
  · gcongr
    · norm_num
    · exact le_max_left ..

/-! ## Rounding at a place -/

/-- Rounding goes down by half of the divisor at most. -/
theorem le_roundToEven_mul (num : Nat) (hden : 0 < den) : 2 * num ≤ 2 * (roundToEven num den * den) + den := by
  have hdiv : num / den * den + num % den = num := Nat.div_add_mod' num den
  have hup : (num / den + 1) * den = num / den * den + den := Nat.succ_mul _ _
  have hmod := Nat.mod_lt num hden
  unfold roundToEven
  simp only
  split
  · omega
  · split
    · omega
    · split <;> omega

/-- What is half-way or more to an even number is rounded to it or past it. -/
theorem le_roundToEven (hden : 0 < den) (heven : k % 2 = 0) (h : 2 * k * den ≤ 2 * num + den) : k ≤ roundToEven num den := by
  have hdiv : num / den * den + num % den = num := Nat.div_add_mod' num den
  have hmod := Nat.mod_lt num hden
  have hnext : k ≤ num / den + 1 := by
    have hlt : 2 * k * den < (2 * (num / den) + 3) * den := by
      rw [Nat.add_mul, Nat.mul_assoc 2 (num / den)]
      omega
    have := Nat.lt_of_mul_lt_mul_right hlt
    omega
  unfold roundToEven
  simp only
  split
  · next hless =>
    have hlt : 2 * k * den < (2 * (num / den) + 2) * den := by
      rw [Nat.add_mul, Nat.mul_assoc 2 (num / den)]
      omega
    have := Nat.lt_of_mul_lt_mul_right hlt
    omega
  · split
    · exact hnext
    · split
      · omega
      · exact hnext

/-- A ratio in units of a place is rounded to a whole number half a unit away at most. -/
theorem abs_roundedAt_sub_le (num : Nat) (hden : 0 < den) (place : Int) :
    |(roundedAt num den place : ℚ) * 2 ^ place - num / den| ≤ 2 ^ place / 2 := by
  have hden' : (0 : ℚ) < den := Nat.cast_pos.mpr hden
  have hround := le_roundToEven_mul (num * pow2 (-place)) (Nat.mul_pos hden (pow2_pos place))
  rw [← roundedAt, ← Nat.cast_le (α := ℚ)] at hround
  push_cast at hround
  rw [cast_pow2 place] at hround
  have hratio : (num / den : ℚ) * (den * pow2 (-place)) = num * pow2 (-place) := by field_simp
  have hbelow : (num / den : ℚ) ≤ roundedAt num den place * 2 ^ place + 2 ^ place / 2 := by
    rw [← mul_le_mul_iff_left₀ (mul_pos hden' (cast_pow2_pos (-place)))]
    linarith
  have habove := roundedAt_mul_le num hden place
  rw [abs_le]
  constructor <;> linarith

/-! ## Ratios -/

/-- The number is a multiple of the last place of the ratio, half of it away at most. -/
def IsNearest (r v : ℚ) : Prop := ∃ place, ∃ k : Nat, IsLastPlace r place ∧ v = k * 2 ^ place ∧ |v - r| ≤ 2 ^ place / 2

/-- A number in range made of a significand and a place is their product. -/
theorem magnitude_place (h : (Number.place negative m e).InRange) : (Number.place negative m e).magnitude = m * 2 ^ e := by
  rw [Number.place] at h ⊢
  split at h
  · cases h
  · next hle => rw [if_neg hle, magnitude]

/-- A ratio is put at its last place. -/
theorem ofRatio_eq_place (negative : Bool) (hnum : num ≠ 0) (hden : 0 < den) (h : IsLastPlace (num / den) place) :
    ofRatio negative num den = if roundedAt num den place = 2 ^ 53 then Number.place negative (2 ^ 52) (place + 1)
      else Number.place negative (roundedAt num den place) place := by
  rw [h.unique (isLastPlace_max hnum hden)]
  exact if_neg hnum

/-- What a ratio is rounded to is half of its last place away at most. -/
theorem isNearest_ofRatio (hden : 0 < den) (h : (num / den : ℚ) < overflow) :
    IsNearest (num / den) (ofRatio negative num den).magnitude := by
  by_cases hnum : num = 0
  · subst hnum
    refine ⟨-1074, 0, ⟨le_rfl, .inl rfl, ?_⟩, ?_, ?_⟩
    · rw [Nat.cast_zero, zero_div]
      positivity
    · simp [ofRatio, zero, magnitude]
    · have hpos := two_zpow_pos (-1074)
      rw [Nat.cast_zero, zero_div, sub_zero, ofRatio, if_pos rfl, zero, magnitude, Nat.cast_zero, zero_mul, abs_zero]
      linarith
  · have hplace := isLastPlace_max hnum hden
    generalize max (lastPlace num den) (-1074) = place at hplace
    have hrange : (ofRatio negative num den).InRange := inRange_ofRatio hden h
    have hnear := abs_roundedAt_sub_le num hden place
    have hvalue : (ofRatio negative num den).magnitude = roundedAt num den place * 2 ^ place := by
      rw [ofRatio_eq_place negative hnum hden hplace] at hrange ⊢
      split at hrange
      · next hfull =>
        rw [if_pos hfull, magnitude_place hrange, hfull, zpow_add_one₀ (by norm_num)]
        push_cast
        ring
      · next hfull => rw [if_neg hfull, magnitude_place hrange]
    exact ⟨place, roundedAt num den place, hplace, hvalue, by rwa [hvalue]⟩

/-- There are ratios that are not past all numbers. -/
theorem overflow_pos : 0 < overflow := mul_pos (by norm_num) (two_zpow_pos 970)

/-- From half a last place above the greatest number on, ratios are rounded past all numbers. -/
theorem ofRatio_of_overflow_le (hden : 0 < den) (h : overflow ≤ num / den) : ofRatio negative num den = .infinite negative := by
  have hden' : (0 : ℚ) < den := Nat.cast_pos.mpr hden
  have hnum : num ≠ 0 := by
    rintro rfl
    rw [Nat.cast_zero, zero_div] at h
    exact absurd h (not_le.mpr overflow_pos)
  obtain ⟨place, hplace⟩ : ∃ place, place = max (lastPlace num den) (-1074) := ⟨_, rfl⟩
  have hlast : IsLastPlace (num / den) place := hplace ▸ isLastPlace_max hnum hden
  have hlarge : 971 ≤ place := by
    by_contra hlt
    refine absurd (h.trans_lt hlast.fits) (not_lt.mpr ?_)
    calc (2 : ℚ) ^ (place + 53) ≤ 2 ^ (53 + 970 : Int) := zpow_le_zpow_right₀ (by norm_num) (by omega)
      _ = 2 ^ (53 : Int) * 2 ^ (970 : Int) := zpow_add₀ (by norm_num) 53 970
      _ ≤ overflow := mul_le_mul_of_nonneg_right (by norm_num) (two_zpow_pos 970).le
  rw [ofRatio_eq_place negative hnum hden hlast]
  rcases hlarge.lt_or_eq with hlt | rfl
  · split
    · exact if_pos (by omega)
    · exact if_pos hlt
  · -- the ratio is half-way to the next power of two or past that, and the power is even
    have hhalf : 2 * 2 ^ 53 * (den * pow2 971) ≤ 2 * (num * pow2 (-971)) + den * pow2 971 := by
      rw [overflow_eq, le_div_iff₀ hden'] at h
      rw [← Nat.cast_le (α := ℚ)]
      push_cast
      rw [cast_pow2 971]
      have hscaled := mul_le_mul_of_nonneg_right h (cast_pow2_pos (-971)).le
      generalize (2 : ℚ) ^ (971 : Int) = top at hscaled ⊢
      linarith
    have hfull : 2 ^ 53 ≤ roundedAt num den 971 := le_roundToEven (Nat.mul_pos hden (pow2_pos _)) (by norm_num) hhalf
    rw [if_pos (le_antisymm (roundedAt_le hnum hden (hplace ▸ le_max_left ..)) hfull)]
    exact if_pos (by omega)

/-! ## The nearest number -/

/-- Of two multiples of a place, those less than one place apart are the same. -/
theorem eq_of_near {a b : Int} (h : |(a : ℚ) * 2 ^ place - b * 2 ^ place| < 2 ^ place) : a = b := by
  have hpos := two_zpow_pos place
  rw [← sub_mul, abs_mul, abs_of_pos hpos, mul_lt_iff_lt_one_left hpos] at h
  have hless : |a - b| < 1 := by exact_mod_cast h
  exact sub_eq_zero.mp (Int.abs_lt_one_iff.mp hless)

/-- A ratio is rounded to the multiple of its last place that is less than half of it away. -/
theorem IsNearest.eq_of_abs_sub_lt (h : IsNearest r v) (hplace : IsLastPlace r place) {a : Int}
    (ha : |(a : ℚ) * 2 ^ place - r| < 2 ^ place / 2) : v = a * 2 ^ place := by
  obtain ⟨place', k, hlast, rfl, hnear⟩ := h
  obtain rfl := hplace.unique hlast
  have hclose : |((k : Int) : ℚ) * 2 ^ place - a * 2 ^ place| < 2 ^ place := by
    rw [Int.cast_natCast]
    calc |(k : ℚ) * 2 ^ place - a * 2 ^ place| ≤ |(k : ℚ) * 2 ^ place - r| + |r - a * 2 ^ place| := abs_sub_le _ _ _
      _ < 2 ^ place / 2 + 2 ^ place / 2 := add_lt_add_of_le_of_lt hnear (by rwa [abs_sub_comm])
      _ = 2 ^ place := add_halves _
  rw [← eq_of_near hclose, Int.cast_natCast]

/-- Every multiple of a place is one of a place below. -/
theorem exists_mul_zpow_eq (m : Nat) (h : place ≤ e) : ∃ k : Nat, (m : ℚ) * 2 ^ e = k * 2 ^ place := by
  obtain ⟨j, hj⟩ := Int.eq_ofNat_of_zero_le (Int.sub_nonneg_of_le h)
  refine ⟨m * 2 ^ j, ?_⟩
  rw [show e = j + place by omega, zpow_add₀ (by norm_num), zpow_natCast]
  push_cast
  ring

/-- A multiple of its own last place stays as it is. -/
theorem IsNearest.eq_of_multiple (h : IsNearest r v) (hplace : IsLastPlace r place) (hr : r = k * 2 ^ place) : v = r := by
  have hpos := two_zpow_pos place
  have hv := h.eq_of_abs_sub_lt hplace (a := k) (by rw [Int.cast_natCast, ← hr, sub_self, abs_zero]; linarith)
  rw [hv, Int.cast_natCast, hr]

/-- What 53 binary places hold stays as it is. -/
theorem IsNearest.eq_self (h : IsNearest r v) (hm : m < 2 ^ 53) (he : -1074 ≤ e) (hr : r = m * 2 ^ e) : v = r := by
  obtain ⟨place, k, hplace, -, -⟩ := id h
  obtain ⟨j, hj⟩ := exists_mul_zpow_eq m (hplace.le (hr ▸ mul_zpow_lt hm e) he)
  exact h.eq_of_multiple hplace (hr.trans hj)

/-- A whole number is rounded to a whole number. -/
theorem IsNearest.exists_natCast (h : IsNearest n v) : ∃ k : Nat, v = k := by
  obtain ⟨place, k, hplace, hv, -⟩ := id h
  rcases Int.le_total 0 place with hpos | hneg
  · obtain ⟨j, hj⟩ := exists_mul_zpow_eq k hpos
    exact ⟨j, by rw [hv, hj, zpow_zero, mul_one]⟩
  · obtain ⟨j, hj⟩ := exists_mul_zpow_eq n hneg
    rw [zpow_zero, mul_one] at hj
    exact ⟨n, h.eq_of_multiple hplace hj⟩

/-- But for the least place, rounding changes a ratio by one part in `2 ^ 53` at most. -/
theorem IsNearest.abs_sub_le (h : IsNearest r v) (hr : (2 : ℚ) ^ (-1022 : Int) ≤ r) : |v - r| ≤ r / 2 ^ 53 := by
  obtain ⟨place, k, hplace, -, hnear⟩ := h
  have hfirst : (2 : ℚ) ^ (place + 52) ≤ r := hplace.first.elim (fun heq => by rwa [heq]) id
  refine hnear.trans ?_
  rw [zpow_add₀ (by norm_num)] at hfirst
  have hpower : (2 : ℚ) ^ (52 : Int) = 2 ^ 53 / 2 := by norm_num
  rw [hpower] at hfirst
  rw [le_div_iff₀ (by norm_num)]
  linarith

end Phrasebook.Number
