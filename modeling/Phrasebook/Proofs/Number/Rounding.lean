import Mathlib.Algebra.Order.Field.Power
import Mathlib.Algebra.Order.Ring.Rat
import Mathlib.Tactic.FieldSimp
import Mathlib.Tactic.Linarith
import Mathlib.Tactic.NormNum
import Mathlib.Tactic.Positivity
import Mathlib.Tactic.Ring
import Phrasebook.Number.Basic

/-!
# What rounding does

A ratio has its last binary place where 53 of them hold it (`lastPlace`), and is rounded up by no more than half of one there
(`exists_ofRatio_eq_place`). So it is rounded past all numbers only from half a place above the greatest of them on
(`inRange_ofRatio`), and a natural number is rounded up only if 53 binary places do not hold it (`magnitude_ofNat_le`).
-/

namespace Phrasebook.Number

variable {negative : Bool} {num den n m : Nat} {e : Int} {x y : Number}

/-! ## Powers of two -/

/-- A power is at least one, as negative exponents count as zero. -/
theorem pow2_pos (e : Int) : 0 < pow2 e := Nat.two_pow_pos _

/-- The same for powers of ten. -/
theorem pow10_pos (e : Int) : 0 < pow10 e := Nat.pow_pos (by decide)

/-- A power and the power of the opposite exponent, one of which is one. -/
theorem cast_pow2 (e : Int) : (pow2 e : ℚ) = 2 ^ e * pow2 (-e) := by
  rcases Int.le_total 0 e with h | h
  · obtain ⟨k, rfl⟩ := Int.eq_ofNat_of_zero_le h
    simp [pow2]
  · obtain ⟨k, hk⟩ := Int.eq_ofNat_of_zero_le (Int.neg_nonneg_of_nonpos h)
    obtain rfl : e = -(k : Int) := by omega
    simp [pow2]

/-- A power of ten is a ratio of the two powers, one of which is one. -/
theorem cast_pow10 (e : Int) : (pow10 e : ℚ) = 10 ^ e * pow10 (-e) := by
  rcases Int.le_total 0 e with h | h
  · obtain ⟨k, rfl⟩ := Int.eq_ofNat_of_zero_le h
    simp [pow10]
  · obtain ⟨k, hk⟩ := Int.eq_ofNat_of_zero_le (Int.neg_nonneg_of_nonpos h)
    obtain rfl : e = -(k : Int) := by omega
    simp [pow10]

/-- As a rational number it is positive. -/
theorem cast_pow2_pos (e : Int) : (0 : ℚ) < pow2 e := Nat.cast_pos.mpr (pow2_pos e)

/-- So is a power of ten. -/
theorem cast_pow10_pos (e : Int) : (0 : ℚ) < pow10 e := Nat.cast_pos.mpr (pow10_pos e)

/-- The binary logarithm is the place of the first digit. -/
theorem two_zpow_log2_le (h : n ≠ 0) : (2 : ℚ) ^ (n.log2 : Int) ≤ n := by
  rw [zpow_natCast]
  exact_mod_cast Nat.log2_self_le h

/-- No digit stands in front of that. -/
theorem lt_two_zpow_log2 (n : Nat) : (n : ℚ) < 2 ^ ((n.log2 : Int) + 1) := by
  rw [← Nat.cast_succ, zpow_natCast]
  exact_mod_cast Nat.lt_log2_self (n := n)

/-! ## Ratios -/

/-- The last of the 53 binary places that hold the first digits of a ratio. -/
def lastPlace (num den : Nat) : Int :=
  let low : Int := (num.log2 : Int) - den.log2 - 53
  if pow2 53 * (den * pow2 low) ≤ num * pow2 (-low) then low + 1 else low

/-- Comparing ratios without division is comparing them. -/
theorem two_zpow_le_iff (hden : 0 < den) (low : Int) :
    pow2 53 * (den * pow2 low) ≤ num * pow2 (-low) ↔ (2 : ℚ) ^ (low + 53) ≤ num / den := by
  have hden' : (0 : ℚ) < den := Nat.cast_pos.mpr hden
  have h53 : (pow2 53 : ℚ) = 2 ^ (53 : Int) := (cast_pow2 53).trans (mul_one _)
  have hleft : (pow2 53 * (den * pow2 low) : ℚ) = 2 ^ (low + 53) * den * pow2 (-low) := by
    rw [cast_pow2 low, h53, zpow_add₀ (by norm_num)]
    ring
  rw [le_div_iff₀ hden', ← mul_le_mul_iff_left₀ (cast_pow2_pos (-low)), ← hleft]
  norm_cast

/-- A ratio has 53 binary places up to its last. -/
theorem lastPlace_spec (hnum : num ≠ 0) (hden : 0 < den) :
    (2 : ℚ) ^ (lastPlace num den + 52) ≤ num / den ∧ (num / den : ℚ) < 2 ^ (lastPlace num den + 53) := by
  have hden' : (0 : ℚ) < den := Nat.cast_pos.mpr hden
  have htwo : (2 : ℚ) ≠ 0 := by norm_num
  rw [lastPlace]
  simp only [two_zpow_le_iff hden]
  split
  · next hle =>
    refine ⟨by convert hle using 2; ring, (div_lt_iff₀ hden').mpr ?_⟩
    calc (num : ℚ) < 2 ^ ((num.log2 : Int) + 1) := lt_two_zpow_log2 num
      _ = 2 ^ ((num.log2 : Int) - den.log2 - 53 + 1 + 53) * 2 ^ (den.log2 : Int) := by
        rw [← zpow_add₀ htwo]
        congr 1
        ring
      _ ≤ _ := by
        gcongr
        exact two_zpow_log2_le hden.ne'
  · next hlt =>
    refine ⟨(le_div_iff₀ hden').mpr ?_, not_le.mp hlt⟩
    calc (2 : ℚ) ^ ((num.log2 : Int) - den.log2 - 53 + 52) * den
        ≤ 2 ^ ((num.log2 : Int) - den.log2 - 53 + 52) * 2 ^ ((den.log2 : Int) + 1) := by
          gcongr
          exact (lt_two_zpow_log2 den).le
      _ = 2 ^ (num.log2 : Int) := by
        rw [← zpow_add₀ htwo]
        congr 1
        ring
      _ ≤ num := two_zpow_log2_le hnum

/-- Rounding goes up by half of the divisor at most. -/
theorem roundToEven_mul_le (num den : Nat) : 2 * (roundToEven num den * den) ≤ 2 * num + den := by
  have hdiv : num / den * den + num % den = num := Nat.div_add_mod' num den
  have hup : (num / den + 1) * den = num / den * den + den := Nat.succ_mul _ _
  unfold roundToEven
  simp only
  split
  · omega
  · split
    · omega
    · split <;> omega

/-- A ratio in units of a binary place, rounded. -/
def roundedAt (num den : Nat) (place : Int) : Nat := roundToEven (num * pow2 (-place)) (den * pow2 place)

/-- It is at most half a unit above the ratio. -/
theorem roundedAt_mul_le (num : Nat) (hden : 0 < den) (place : Int) :
    (roundedAt num den place : ℚ) * 2 ^ place ≤ num / den + 2 ^ place / 2 := by
  have hden' : (0 : ℚ) < den := Nat.cast_pos.mpr hden
  have hround := roundToEven_mul_le (num * pow2 (-place)) (den * pow2 place)
  rw [← roundedAt, ← Nat.cast_le (α := ℚ)] at hround
  push_cast at hround
  rw [cast_pow2 place] at hround
  have hratio : (num / den : ℚ) * (den * pow2 (-place)) = num * pow2 (-place) := by field_simp
  rw [← mul_le_mul_iff_left₀ (mul_pos hden' (cast_pow2_pos (-place)))]
  linarith

/-- It has 53 binary places at most, but for the next power of two, where the unit is not below the last place. -/
theorem roundedAt_le (hnum : num ≠ 0) (hden : 0 < den) {place : Int} (h : lastPlace num den ≤ place) :
    roundedAt num den place ≤ 2 ^ 53 := by
  have hratio : (num / den : ℚ) < 2 ^ 53 * 2 ^ place := by
    refine (lastPlace_spec hnum hden).2.trans_le ?_
    rw [add_comm, zpow_add₀ (by norm_num)]
    gcongr
    · norm_num
    · norm_num
  have hvalue := roundedAt_mul_le num hden place
  have hpos : (0 : ℚ) < 2 ^ place := by positivity
  have hless : (roundedAt num den place : ℚ) * 2 ^ place < (2 ^ 53 + 1) * 2 ^ place := by linarith
  exact Nat.lt_succ_iff.mp (by exact_mod_cast lt_of_mul_lt_mul_right hless hpos.le)

/-! ## Numbers -/

/-- The numbers that are rounded to: their mantissa has 53 binary places at most. -/
inductive InRange : Number → Prop where
  | finite (negative : Bool) {m : Nat} {e : Int} (hm : m < 2 ^ 53) (hlow : -1074 ≤ e) (hhigh : e ≤ 971) :
      InRange (.finite negative m e)

instance : DecidablePred InRange
  | .nan | .infinite _ => .isFalse nofun
  | .finite negative m e =>
    decidable_of_iff (m < 2 ^ 53 ∧ -1074 ≤ e ∧ e ≤ 971)
      ⟨fun ⟨hm, hlow, hhigh⟩ => .finite negative hm hlow hhigh, fun | .finite _ hm hlow hhigh => ⟨hm, hlow, hhigh⟩⟩

/-- The value of a number without its sign. -/
def magnitude : Number → ℚ
  | .finite _ m e => m * 2 ^ e
  | _ => 0

/-- From here on a value is rounded past all numbers: half a last place above the greatest of them. -/
def overflow : ℚ := (2 ^ 54 - 1) * 2 ^ (970 : Int)

/-- The bound is half a place above the greatest number. -/
theorem overflow_eq : overflow = (2 ^ 53 - 1 / 2) * 2 ^ (971 : Int) := by
  rw [overflow, show (971 : Int) = 970 + 1 from rfl, zpow_add_one₀ (by norm_num)]
  ring

/-- A number is below what is rounded past all numbers. -/
theorem InRange.magnitude_lt (h : x.InRange) : x.magnitude < overflow := by
  cases h with
  | finite negative hm hlow hhigh =>
    rename_i m e
    have hm' : (m : ℚ) ≤ 2 ^ 53 - 1 := by
      rw [le_sub_iff_add_le]
      exact_mod_cast hm
    calc (m : ℚ) * 2 ^ e ≤ (2 ^ 53 - 1) * 2 ^ (971 : Int) := by
          gcongr
          norm_num
      _ < overflow := by
        rw [overflow_eq]
        gcongr
        norm_num

/-- What rounding gives a ratio: at most half a last place more, in 53 binary places, if this is not past all numbers. -/
theorem exists_ofRatio_eq_place (negative : Bool) (hnum : num ≠ 0) (hden : 0 < den) :
    ∃ (last : Int) (m : Nat) (e : Int), -1074 ≤ last ∧ (last = -1074 ∨ (2 : ℚ) ^ (last + 52) ≤ num / den) ∧ m < 2 ^ 53 ∧
      (e = last ∨ e = last + 1 ∧ m = 2 ^ 52) ∧ (m : ℚ) * 2 ^ e ≤ num / den + 2 ^ last / 2 ∧
      ofRatio negative num den = place negative m e := by
  obtain ⟨last, hlast⟩ : ∃ last, last = max (lastPlace num den) (-1074) := ⟨_, rfl⟩
  have heq : ofRatio negative num den =
      if roundedAt num den last = pow2 53 then place negative (pow2 52) (last + 1)
      else place negative (roundedAt num den last) last := by
    subst hlast
    exact if_neg hnum
  have hleast : -1074 ≤ last := hlast ▸ le_max_right ..
  have hfirst : last = -1074 ∨ (2 : ℚ) ^ (last + 52) ≤ num / den := by
    rcases max_choice (lastPlace num den) (-1074) with h | h
    · exact .inr (by rw [hlast, h]; exact (lastPlace_spec hnum hden).1)
    · exact .inl (hlast.trans h)
  have hvalue := roundedAt_mul_le num hden last
  have hle : roundedAt num den last ≤ 2 ^ 53 := roundedAt_le hnum hden (hlast ▸ le_max_left ..)
  by_cases hfull : roundedAt num den last = 2 ^ 53
  · refine ⟨last, 2 ^ 52, last + 1, hleast, hfirst, by norm_num, .inr ⟨rfl, rfl⟩, ?_, heq.trans (if_pos hfull)⟩
    rw [hfull] at hvalue
    refine le_trans (le_of_eq ?_) hvalue
    rw [zpow_add_one₀ (by norm_num)]
    push_cast
    ring
  · exact ⟨last, _, last, hleast, hfirst, lt_of_le_of_ne hle hfull, .inl rfl, hvalue, heq.trans (if_neg hfull)⟩

/-- A ratio is rounded to a number or past all numbers. -/
theorem inRange_or_eq_infinite (negative : Bool) (num : Nat) (hden : 0 < den) :
    (ofRatio negative num den).InRange ∨ ofRatio negative num den = .infinite negative := by
  by_cases hnum : num = 0
  · subst hnum
    exact .inl (by rw [ofRatio, if_pos rfl]; exact .finite negative (by norm_num) (by norm_num) (by norm_num))
  · obtain ⟨last, m, e, hlast, -, hm, he, -, heq⟩ := exists_ofRatio_eq_place negative hnum hden
    rw [heq, place]
    split
    · exact .inr rfl
    · exact .inl (.finite negative hm (by omega) (by omega))

/-- It is not rounded past all numbers below half a last place above the greatest of them. -/
theorem inRange_ofRatio (hden : 0 < den) (h : (num / den : ℚ) < overflow) : (ofRatio negative num den).InRange := by
  refine (inRange_or_eq_infinite negative num hden).resolve_right fun hinfinite => ?_
  have hnum : num ≠ 0 := by
    rintro rfl
    rw [ofRatio, if_pos rfl] at hinfinite
    cases hinfinite
  obtain ⟨last, m, e, -, hleast, -, he, hvalue, heq⟩ := exists_ofRatio_eq_place negative hnum hden
  have hlarge : 971 < e := by
    by_contra hle
    rw [heq, place, if_neg hle] at hinfinite
    cases hinfinite
  refine absurd h (not_lt.mpr ?_)
  rcases he with rfl | ⟨rfl, rfl⟩
  · have hratio := hleast.resolve_left (by omega)
    have hpower : (2 : ℚ) ^ (971 : Int) * 2 ^ 53 ≤ 2 ^ (e + 52) := by
      rw [← zpow_natCast, ← zpow_add₀ (by norm_num)]
      exact zpow_le_zpow_right₀ (by norm_num) (by push_cast; omega)
    have hpos : (0 : ℚ) < 2 ^ (971 : Int) := by positivity
    rw [overflow_eq]
    generalize (2 : ℚ) ^ (971 : Int) = top at hpower hpos ⊢
    linarith
  · have hpower : (2 : ℚ) ^ (971 : Int) ≤ 2 ^ last := by
      gcongr
      · norm_num
      · omega
    rw [zpow_add_one₀ (by norm_num)] at hvalue
    push_cast at hvalue
    rw [overflow_eq]
    generalize (2 : ℚ) ^ (971 : Int) = top at hpower ⊢
    linarith

/-! ## Natural numbers -/

/-- A natural number below it is rounded to a number. -/
theorem inRange_ofNat (h : (n : ℚ) < overflow) : (ofNat n).InRange :=
  inRange_ofRatio Nat.one_pos (by simpa using h)

/-- A natural number that 53 binary places hold is not rounded up, and others are by one in `2 ^ 53` at most. -/
theorem magnitude_ofNat_le (h : (n : ℚ) < overflow) : (ofNat n).magnitude ≤ (n + n / 2 ^ 53 : Nat) := by
  by_cases hn : n = 0
  · subst hn
    simp [ofNat, ofRatio, zero, magnitude]
  obtain ⟨last, m, e, -, hleast, -, he, hvalue, heq⟩ := exists_ofRatio_eq_place false hn Nat.one_pos
  have hmagnitude : (ofNat n).magnitude = m * 2 ^ e := by
    have hrange := inRange_ofNat h
    rw [ofNat, heq, place] at hrange ⊢
    split at hrange
    · cases hrange
    · next hle => rw [if_neg hle, magnitude]
  rw [hmagnitude]
  rw [Nat.cast_one, div_one] at hleast hvalue
  rcases Int.lt_or_le 0 last with hpos | hneg
  · -- half of the last place is a part of `n`
    obtain ⟨k, rfl⟩ : ∃ k : Nat, last = k + 1 := ⟨(last - 1).toNat, by omega⟩
    have hk : 2 ^ k * 2 ^ 53 ≤ n := by
      have hle := hleast.resolve_left (by omega)
      rw [show (k + 1 + 52 : Int) = ((k + 53 : Nat) : Int) by push_cast; ring, zpow_natCast] at hle
      rw [← pow_add]
      exact_mod_cast hle
    have hk' : ((2 ^ k : Nat) : ℚ) ≤ (n / 2 ^ 53 : Nat) :=
      Nat.cast_le.mpr ((Nat.le_div_iff_mul_le (by norm_num)).mpr hk)
    refine hvalue.trans ?_
    rw [zpow_add_one₀ (by norm_num), zpow_natCast]
    push_cast at hk' ⊢
    linarith
  · -- the last place divides `n`
    obtain ⟨k, hk⟩ := Int.eq_ofNat_of_zero_le (Int.neg_nonneg_of_nonpos hneg)
    have hpos : (0 : ℚ) < 2 ^ last := by positivity
    have hone : (2 ^ k : Nat) * (2 : ℚ) ^ last = 1 := by
      rw [show last = -(k : Int) by omega, zpow_neg, zpow_natCast, Nat.cast_pow, Nat.cast_ofNat]
      exact mul_inv_cancel₀ (by positivity)
    obtain ⟨places, hplaces⟩ : ∃ places : Nat, (m : ℚ) * 2 ^ e = places * 2 ^ last := by
      rcases he with rfl | ⟨rfl, rfl⟩
      · exact ⟨m, rfl⟩
      · refine ⟨2 ^ 53, ?_⟩
        rw [zpow_add_one₀ (by norm_num)]
        push_cast
        ring
    have hle : places ≤ n * 2 ^ k := by
      have hlt : (places : ℚ) * 2 ^ last < ((n * 2 ^ k : Nat) + 1 : ℚ) * 2 ^ last := by
        rw [← hplaces, Nat.cast_mul, add_mul, mul_assoc, hone]
        linarith
      exact Nat.lt_succ_iff.mp (by exact_mod_cast lt_of_mul_lt_mul_right hlt hpos.le)
    calc (m : ℚ) * 2 ^ e = places * 2 ^ last := hplaces
      _ ≤ (n * 2 ^ k : Nat) * 2 ^ last := by gcongr
      _ = n := by rw [Nat.cast_mul, mul_assoc, hone, mul_one]
      _ ≤ (n + n / 2 ^ 53 : Nat) := Nat.cast_le.mpr (Nat.le_add_right ..)

/-! ## Products and quotients -/

/-- A number in range is finite. -/
theorem InRange.exists_finite (h : x.InRange) : ∃ negative m e, x = .finite negative m e := by
  cases h
  exact ⟨_, _, _, rfl⟩

/-- Magnitudes are not negative. -/
theorem magnitude_nonneg (x : Number) : 0 ≤ x.magnitude := by
  cases x with
  | nan => exact le_rfl
  | infinite => exact le_rfl
  | finite negative m e => exact mul_nonneg (Nat.cast_nonneg m) (by positivity)

/-- The ratio that a product is rounded from is the exact product. -/
theorem product_ratio (m n : Nat) (e f : Int) :
    ((m * n * pow2 (e + f) : Nat) / pow2 (-(e + f)) : ℚ) = m * 2 ^ e * (n * 2 ^ f) := by
  rw [div_eq_iff (cast_pow2_pos _).ne']
  push_cast
  rw [cast_pow2 (e + f), zpow_add₀ (by norm_num)]
  ring

/-- The ratio that a quotient is rounded from is the exact quotient. -/
theorem quotient_ratio (m : Nat) (hn : n ≠ 0) (e f : Int) :
    ((m * pow2 (e - f) : Nat) / (n * pow2 (f - e) : Nat) : ℚ) = m * 2 ^ e / (n * 2 ^ f) := by
  have hn' : (n : ℚ) ≠ 0 := Nat.cast_ne_zero.mpr hn
  rw [Nat.cast_mul, Nat.cast_mul, cast_pow2 (e - f), neg_sub, zpow_sub₀ (by norm_num)]
  have hpos := (cast_pow2_pos (f - e)).ne'
  field_simp

/-- A product is a number or past all numbers. -/
theorem InRange.mul_inRange_or (hx : x.InRange) (hy : y.InRange) :
    (x.mul y).InRange ∨ ∃ negative, x.mul y = .infinite negative := by
  obtain ⟨a, m, e, rfl⟩ := hx.exists_finite
  obtain ⟨b, n, f, rfl⟩ := hy.exists_finite
  exact (inRange_or_eq_infinite (a != b) _ (pow2_pos _)).imp_right fun h => ⟨_, h⟩

/-- It is a number if the exact product is not past all numbers. -/
theorem InRange.mul (hx : x.InRange) (hy : y.InRange) (h : x.magnitude * y.magnitude < overflow) : (x.mul y).InRange := by
  obtain ⟨a, m, e, rfl⟩ := hx.exists_finite
  obtain ⟨b, n, f, rfl⟩ := hy.exists_finite
  refine inRange_ofRatio (pow2_pos _) ?_
  rwa [product_ratio]

/-- A quotient by a number that is at least one is a number. -/
theorem InRange.div (hx : x.InRange) (hy : y.InRange) (h : 1 ≤ y.magnitude) : (x.div y).InRange := by
  have hless : x.magnitude / y.magnitude < overflow :=
    (div_le_self x.magnitude_nonneg h).trans_lt hx.magnitude_lt
  obtain ⟨a, m, e, rfl⟩ := hx.exists_finite
  obtain ⟨b, n, f, rfl⟩ := hy.exists_finite
  have hn : n ≠ 0 := by
    rintro rfl
    norm_num [magnitude] at h
  rw [div, if_neg hn]
  refine inRange_ofRatio (Nat.mul_pos (Nat.pos_of_ne_zero hn) (pow2_pos _)) ?_
  rwa [quotient_ratio m hn]

end Phrasebook.Number
