import Mathlib.Algebra.Order.Floor.Semifield
import Mathlib.Data.Rat.Floor
import Phrasebook.Number.Grouped
import Phrasebook.Proofs.Number.Nearest

/-!
# Rounding to thousandths

A magnitude is scaled by 1000, rounded to a whole number and scaled back, and each of the three steps is rounded to a number
(`exists_roundThousandths`). A whole number survives that, unless its product with 1000 needs ten binary places more than there
are and lies near the middle between two numbers there (`LosesDigits`, `thousandths_of_whole_iff`).
-/

namespace Phrasebook.Number

variable {n m : Nat} {e : Int} {x y : Number} {r v p : ℚ}

/-! ## The steps -/

/-- A product that is not too large is the nearest number to the exact one. -/
theorem InRange.isNearest_mul (hx : x.InRange) (hy : y.InRange) (h : x.magnitude * y.magnitude < overflow) :
    IsNearest (x.magnitude * y.magnitude) (x.mul y).magnitude := by
  obtain ⟨a, m, e, rfl⟩ := hx.exists_finite
  obtain ⟨b, n, f, rfl⟩ := hy.exists_finite
  have hratio := product_ratio m n e f
  simp only [magnitude] at h ⊢
  rw [← hratio] at h ⊢
  exact isNearest_ofRatio (pow2_pos _) h

/-- A product that is too large is infinite. -/
theorem InRange.mul_of_overflow_le (hx : x.InRange) (hy : y.InRange) (h : overflow ≤ x.magnitude * y.magnitude) :
    ∃ negative, x.mul y = .infinite negative := by
  obtain ⟨a, m, e, rfl⟩ := hx.exists_finite
  obtain ⟨b, n, f, rfl⟩ := hy.exists_finite
  simp only [magnitude] at h
  rw [← product_ratio m n e f] at h
  exact ⟨_, ofRatio_of_overflow_le (pow2_pos _) h⟩

/-- A quotient is the nearest number to the exact one; it cannot be too large where the divisor is not small. -/
theorem InRange.isNearest_div (hx : x.InRange) (hy : y.InRange) (h : 1 ≤ y.magnitude) :
    IsNearest (x.magnitude / y.magnitude) (x.div y).magnitude := by
  have hless : x.magnitude / y.magnitude < overflow := (div_le_self x.magnitude_nonneg h).trans_lt hx.magnitude_lt
  obtain ⟨a, m, e, rfl⟩ := hx.exists_finite
  obtain ⟨b, n, f, rfl⟩ := hy.exists_finite
  have hn : n ≠ 0 := by
    rintro rfl
    norm_num [magnitude] at h
  simp only [magnitude] at hless
  rw [← quotient_ratio m hn e f] at hless
  rw [Number.div, if_neg hn, magnitude, magnitude, ← quotient_ratio m hn e f]
  exact isNearest_ofRatio (Nat.mul_pos (Nat.pos_of_ne_zero hn) (pow2_pos _)) hless

/-- A natural number is rounded to the nearest number. -/
theorem isNearest_ofNat (h : (n : ℚ) < overflow) : IsNearest n (ofNat n).magnitude := by
  have hnear : IsNearest (n / (1 : Nat)) (ofNat n).magnitude := isNearest_ofRatio Nat.one_pos (by simpa using h)
  simpa using hnear

/-- Natural numbers of 53 binary places are not too large. -/
theorem natCast_lt_overflow_of_lt (h : n < 2 ^ 53) : (n : ℚ) < overflow := by
  have hrange : (finite false n 0).InRange := .finite false h (by norm_num) (by norm_num)
  simpa [magnitude] using hrange.magnitude_lt

/-- They are numbers themselves. -/
theorem magnitude_ofNat (h : n < 2 ^ 53) : (ofNat n).magnitude = n :=
  (isNearest_ofNat (natCast_lt_overflow_of_lt h)).eq_self (e := 0) h (by norm_num) (by simp)

/-- A number is half of a last place below what is rounded past all numbers, and more. -/
theorem InRange.magnitude_add_half_lt (h : x.InRange) : x.magnitude + 1 / 2 < overflow := by
  cases h with
  | finite negative hm hlow hhigh =>
    rename_i m e
    have hm' : (m : ℚ) ≤ 2 ^ 53 - 1 := by
      rw [le_sub_iff_add_le]
      exact_mod_cast hm
    have hhalf : (1 : ℚ) / 2 < 1 / 2 * 2 ^ (971 : Int) := by
      rw [lt_mul_iff_one_lt_right (by norm_num)]
      exact one_lt_zpow₀ (by norm_num) (by norm_num)
    calc (m : ℚ) * 2 ^ e + 1 / 2 < (2 ^ 53 - 1) * 2 ^ (971 : Int) + 1 / 2 * 2 ^ (971 : Int) := by
          refine add_lt_add_of_le_of_lt ?_ hhalf
          gcongr
          norm_num
      _ = overflow := by
        rw [overflow_eq]
        ring

/-- Rounding to a whole number takes the whole part of what is a half larger: ties go up. -/
theorem roundMagnitude_eq (h : x.InRange) : x.roundMagnitude = ofNat ⌊x.magnitude + 1 / 2⌋₊ := by
  obtain ⟨negative, m, e, rfl⟩ := h.exists_finite
  have hpos := cast_pow2_pos (-e)
  have hratio : ((2 * m * pow2 e + pow2 (-e) : Nat) / (2 * pow2 (-e) : Nat) : ℚ) = m * 2 ^ e + 1 / 2 := by
    push_cast
    rw [cast_pow2 e]
    field_simp
  rw [roundMagnitude, magnitude, ← hratio, Nat.floor_div_eq_div]

/-- A number that is whole is the whole number nearest to it. -/
theorem floor_add_half (n : Nat) : ⌊(n : ℚ) + 1 / 2⌋₊ = n := by
  rw [Nat.floor_eq_iff (by positivity)]
  constructor <;> linarith

/-- Dropping the sign keeps the magnitude. -/
theorem magnitude_abs (x : Number) : x.abs.magnitude = x.magnitude := by cases x <;> rfl

/-- It keeps a number in range. -/
theorem inRange_abs (h : x.InRange) : x.abs.InRange := by
  cases h with
  | finite negative hm hlow hhigh => exact .finite false hm hlow hhigh

/-- The number that magnitudes are scaled by is in range. -/
theorem inRange_thousand : (ofNat 1000).InRange := inRange_ofNat (natCast_lt_overflow_of_lt (by norm_num))

/-- And it is exactly a thousand. -/
theorem magnitude_thousand : (ofNat 1000).magnitude = 1000 := magnitude_ofNat (by norm_num)

/-- The magnitude is rounded three times: scaled by 1000, as a whole number, and scaled back. -/
theorem exists_roundThousandths (hx : x.InRange) (h : x.magnitude * 1000 < overflow) : ∃ scaled whole : Number,
    scaled.InRange ∧ IsNearest (x.magnitude * 1000) scaled.magnitude ∧
      IsNearest ⌊scaled.magnitude + 1 / 2⌋₊ whole.magnitude ∧
      x.roundThousandths.InRange ∧ IsNearest (whole.magnitude / 1000) x.roundThousandths.magnitude := by
  have habs := inRange_abs hx
  have hproduct : x.abs.magnitude * (ofNat 1000).magnitude < overflow := by rwa [magnitude_abs, magnitude_thousand]
  have hscaled := habs.mul inRange_thousand hproduct
  have hnear := habs.isNearest_mul inRange_thousand hproduct
  rw [magnitude_abs, magnitude_thousand] at hnear
  have hfloor : ((⌊(x.abs.mul (ofNat 1000)).magnitude + 1 / 2⌋₊ : Nat) : ℚ) < overflow :=
    (Nat.floor_le (add_nonneg (magnitude_nonneg _) (by norm_num))).trans_lt hscaled.magnitude_add_half_lt
  have hone : 1 ≤ (ofNat 1000).magnitude := by norm_num [magnitude_thousand]
  have hwhole := inRange_ofNat hfloor
  have hdiv := hwhole.isNearest_div inRange_thousand hone
  rw [magnitude_thousand] at hdiv
  rw [roundThousandths, roundMagnitude_eq hscaled]
  exact ⟨_, _, hscaled, hnear, isNearest_ofNat hfloor, hwhole.div inRange_thousand hone, hdiv⟩

/-! ## The error of scaling -/

/-- A product with 1000 is off by `δ / 125` units of the factor's last place; `i + 3` binary places are dropped. -/
theorem IsNearest.exists_shift {i : Nat} (h : IsNearest (m * 2 ^ e * 1000) p)
    (hplace : IsLastPlace (m * 2 ^ e * 1000) (e + 3 + i)) :
    ∃ (k : Nat) (δ : Int), δ = 2 ^ i * k - 125 * m ∧ 2 * |δ| ≤ 2 ^ i ∧ p / 1000 = (m + δ / 125) * 2 ^ e := by
  obtain ⟨place, k, hlast, rfl, hnear⟩ := h
  obtain rfl := hplace.unique hlast
  have hpos := two_zpow_pos e
  have hpower : (2 : ℚ) ^ (e + 3 + i) = 8 * 2 ^ i * 2 ^ e := by
    rw [zpow_add₀ (by norm_num), zpow_add₀ (by norm_num), zpow_natCast]
    norm_num
    ring
  refine ⟨k, 2 ^ i * k - 125 * m, rfl, ?_, ?_⟩
  · have hdiff : (k : ℚ) * 2 ^ (e + 3 + i) - m * 2 ^ e * 1000 = ((2 ^ i * k - 125 * m : Int) : ℚ) * (8 * 2 ^ e) := by
      rw [hpower]
      push_cast
      ring
    rw [hdiff, hpower, abs_mul, abs_of_pos (mul_pos (by norm_num) hpos)] at hnear
    have hscaled : ((2 * |(2 ^ i * k - 125 * m : Int)| : Int) : ℚ) * (8 * 2 ^ e) ≤ ((2 ^ i : Int) : ℚ) * (8 * 2 ^ e) := by
      push_cast at hnear ⊢
      linarith
    exact_mod_cast le_of_mul_le_mul_right hscaled (mul_pos (by norm_num) hpos)
  · rw [hpower]
    push_cast
    field_simp
    ring

/-- A number of 53 binary places that is off by `δ / 125` units of the last is rounded back to itself if that is less than half a
unit, and away from itself otherwise. -/
theorem IsNearest.of_shift {δ : Int} (h : IsNearest ((m + δ / 125) * 2 ^ e) v) (hlow : 2 ^ 52 < m) (hhigh : m < 2 ^ 53)
    (he : -1074 ≤ e) (hδ : |δ| ≤ 64) : (|δ| ≤ 62 → v = m * 2 ^ e) ∧ (62 < |δ| → 2 ^ e ≤ |v - m * 2 ^ e|) := by
  have hpos := two_zpow_pos e
  have hlow' : (2 : ℚ) ^ 52 + 1 ≤ m := by exact_mod_cast hlow
  have hhigh' : (m : ℚ) + 1 ≤ 2 ^ 53 := by exact_mod_cast hhigh
  have hδ' : |(δ : ℚ)| ≤ 64 := by exact_mod_cast hδ
  obtain ⟨habove, hbelow⟩ := abs_le.mp hδ'
  have hplace : IsLastPlace ((m + δ / 125) * 2 ^ e) e := by
    refine ⟨he, .inr ?_, ?_⟩
    · rw [zpow_add₀ (by norm_num), mul_comm, zpow_ofNat]
      refine mul_le_mul_of_nonneg_right ?_ hpos.le
      linarith
    · rw [zpow_add₀ (by norm_num), mul_comm ((2 : ℚ) ^ e) (2 ^ (53 : Int)), zpow_ofNat]
      refine mul_lt_mul_of_pos_right ?_ hpos
      linarith
  have hoff : |(m : ℚ) * 2 ^ e - (m + δ / 125) * 2 ^ e| = |(δ : ℚ)| / 125 * 2 ^ e := by
    rw [← sub_mul, abs_mul, abs_of_pos hpos, sub_add_cancel_left, abs_neg, abs_div]
    norm_num
  constructor
  · intro hsmall
    have hsmall' : |(δ : ℚ)| ≤ 62 := by exact_mod_cast hsmall
    refine h.eq_of_abs_sub_lt hplace (a := m) ?_
    rw [Int.cast_natCast, hoff]
    calc |(δ : ℚ)| / 125 * 2 ^ e ≤ 62 / 125 * 2 ^ e := by gcongr
      _ < 2 ^ e / 2 := by linarith
  · intro hlarge
    have hlarge' : (63 : ℚ) ≤ |(δ : ℚ)| := by exact_mod_cast hlarge
    obtain ⟨place, k, hlast, rfl, hnear⟩ := h
    obtain rfl := hplace.unique hlast
    by_contra hless
    rw [not_le] at hless
    have heq : (k : Int) = m := eq_of_near (by simpa using hless)
    rw [Int.ofNat_inj.mp heq, hoff] at hnear
    have hmore : (63 : ℚ) / 125 * 2 ^ e ≤ |(δ : ℚ)| / 125 * 2 ^ e := by gcongr
    linarith

/-- Does scaling by 1000 lose the last binary place of `m`? The product has 63 binary places, and its last ten, which are dropped,
are within one unit of the middle of them. -/
def LosesPlace (m : Nat) : Prop := 2 ^ 62 ≤ 1000 * m ∧ m % 128 ∈ [21, 64, 107]

instance : DecidablePred LosesPlace := fun _ => inferInstanceAs (Decidable (_ ∧ _))

/-- Ten places are dropped from `125 * m` in units of eight: what is left of them is within one of the middle for these `m`. -/
theorem lt_abs_shift_iff {k δ : Int} (hδ : δ = 128 * k - 125 * m) (hsmall : |δ| ≤ 64) :
    62 < |δ| ↔ m % 128 ∈ [21, 64, 107] := by
  obtain ⟨habove, hbelow⟩ := abs_le.mp hsmall
  obtain ⟨j, hj⟩ : ∃ j : Int, δ = 128 * j + 3 * (m % 128 : Nat) := ⟨k - 125 * (m / 128 : Nat) - (m % 128 : Nat), by omega⟩
  have hrest := Nat.mod_lt m (show 0 < 128 by decide)
  simp only [lt_abs, List.mem_cons, List.not_mem_nil, or_false]
  generalize m % 128 = rest at *
  clear hδ hsmall
  obtain rfl | rfl | rfl | rfl : j = 0 ∨ j = -1 ∨ j = -2 ∨ j = -3 := by omega
  all_goals omega

/-- The last place of a scaled number is known from the binary places of its digits times 1000. -/
theorem isLastPlace_scaled {i : Nat} (hlow : 2 ^ (55 + i) ≤ 1000 * m) (hhigh : 1000 * m < 2 ^ (56 + i))
    (he : -1074 ≤ e) : IsLastPlace (m * 2 ^ e * 1000) (e + 3 + i) := by
  have hpos := two_zpow_pos e
  have hlow' : (2 : ℚ) ^ (55 + i) ≤ 1000 * m := by exact_mod_cast hlow
  have hhigh' : (1000 : ℚ) * m < 2 ^ (56 + i) := by exact_mod_cast hhigh
  refine ⟨by omega, .inr ?_, ?_⟩
  · calc (2 : ℚ) ^ (e + 3 + i + 52) = 2 ^ (55 + i) * 2 ^ e := by
          rw [← zpow_natCast, ← zpow_add₀ (by norm_num)]
          congr 1
          push_cast
          ring
      _ ≤ 1000 * m * 2 ^ e := by gcongr
      _ = m * 2 ^ e * 1000 := by ring
  · calc (m : ℚ) * 2 ^ e * 1000 = 1000 * m * 2 ^ e := by ring
      _ < 2 ^ (56 + i) * 2 ^ e := by gcongr
      _ = 2 ^ (e + 3 + i + 53) := by
        rw [← zpow_natCast, ← zpow_add₀ (by norm_num)]
        congr 1
        push_cast
        ring

/-- Scaled by 1000 and back, a number of 53 binary places is what it was unless it loses the last of them. -/
theorem IsNearest.scaled_back (hp : IsNearest (m * 2 ^ e * 1000) p) (hv : IsNearest (p / 1000) v) (hlow : 2 ^ 52 ≤ m)
    (hhigh : m < 2 ^ 53) (he : -1074 ≤ e) :
    (¬LosesPlace m → v = m * 2 ^ e) ∧ (LosesPlace m → 2 ^ e ≤ |v - m * 2 ^ e|) := by
  by_cases hlarge : 2 ^ 62 ≤ 1000 * m
  · -- ten binary places are dropped
    obtain ⟨k, δ, hδ, hsmall, hshift⟩ := hp.exists_shift (i := 7) (isLastPlace_scaled hlarge (by omega) he)
    rw [hshift] at hv
    have hsmall' : |δ| ≤ 64 := by omega
    obtain ⟨hback, haway⟩ := hv.of_shift (by omega) hhigh he hsmall'
    rw [LosesPlace, and_iff_right hlarge, ← lt_abs_shift_iff hδ hsmall', not_lt]
    exact ⟨hback, haway⟩
  · -- nine binary places are dropped, so that the error is a quarter of a unit at most
    have hkeeps : ¬LosesPlace m := fun h => hlarge h.1
    refine ⟨fun _ => ?_, fun h => absurd h hkeeps⟩
    obtain ⟨k, δ, hδ, hsmall, hshift⟩ := hp.exists_shift (i := 6) (isLastPlace_scaled (by omega) (by omega) he)
    obtain ⟨habove, hbelow⟩ := abs_le.mp (show |δ| ≤ 32 by omega)
    rw [hshift] at hv
    rcases hlow.lt_or_eq with hless | rfl
    · exact (hv.of_shift hless hhigh he (by omega)).1 (by omega)
    · obtain rfl : δ = 0 := by omega
      rw [Int.cast_zero, zero_div, add_zero] at hv
      exact hv.eq_self hhigh he rfl

/-! ## Whole numbers -/

/-- The number in thousandths, as the text of it counts them. -/
def thousandths : Number → Nat
  | .finite _ m e => roundToEven (m * pow2 e * 1000) (pow2 (-e))
  | _ => 0

/-- The number of thousandths is off by a half at most. -/
theorem abs_thousandths_sub_le (h : x.InRange) : |(x.thousandths : ℚ) - x.magnitude * 1000| ≤ 1 / 2 := by
  obtain ⟨negative, m, e, rfl⟩ := h.exists_finite
  have hpos := cast_pow2_pos (-e)
  have hround := abs_roundedAt_sub_le (m * pow2 e * 1000) (pow2_pos (-e)) 0
  have hat : roundedAt (m * pow2 e * 1000) (pow2 (-e)) 0 = thousandths (.finite negative m e) := by
    simp [roundedAt, thousandths, pow2]
  have hratio : ((m * pow2 e * 1000 : Nat) / pow2 (-e) : ℚ) = m * 2 ^ e * 1000 := by
    push_cast
    rw [cast_pow2 e]
    field_simp
  rwa [hat, hratio, zpow_zero, mul_one] at hround

/-- The number lies where scaling by 1000 loses the last of its 53 binary places. -/
def LosesDigits (x : Number) : Prop :=
  ∃ (m : Nat) (e : Int), 2 ^ 52 ≤ m ∧ m < 2 ^ 53 ∧ x.magnitude = m * 2 ^ e ∧ LosesPlace m

/-- A whole number has 53 binary places, the first of which is not zero. -/
theorem InRange.exists_places (hx : x.InRange) (hn : x.magnitude = n) (hpos : n ≠ 0) :
    ∃ (m : Nat) (e : Int), 2 ^ 52 ≤ m ∧ m < 2 ^ 53 ∧ -52 ≤ e ∧ x.magnitude = m * 2 ^ e := by
  obtain ⟨place, hplace⟩ : ∃ place, IsLastPlace n place := ⟨_, by simpa using isLastPlace_max hpos Nat.one_pos⟩
  have hone : (1 : ℚ) ≤ n := by exact_mod_cast Nat.one_le_iff_ne_zero.mpr hpos
  have hleast : -52 ≤ place := by
    have hless := (zpow_lt_zpow_iff_right₀ (by norm_num : (1 : ℚ) < 2)).mp
      (show (2 : ℚ) ^ (0 : Int) < 2 ^ (place + 53) by simpa using hone.trans_lt hplace.fits)
    omega
  cases hx with
  | @finite negative m₀ e₀ hm₀ hlow =>
    obtain ⟨m, hm⟩ := exists_mul_zpow_eq m₀ (hplace.le (hn ▸ mul_zpow_lt hm₀ e₀) hlow)
    have hvalue : (n : ℚ) = m * 2 ^ place := hn.symm.trans hm
    have hplacePos := two_zpow_pos place
    refine ⟨m, place, ?_, ?_, hleast, hm⟩
    · have hfirst := hplace.first.resolve_left (by omega)
      rw [hvalue, add_comm, zpow_add₀ (by norm_num), mul_le_mul_iff_left₀ hplacePos] at hfirst
      exact_mod_cast hfirst
    · have hless := hplace.fits
      rw [hvalue, add_comm, zpow_add₀ (by norm_num), mul_lt_mul_iff_left₀ hplacePos] at hless
      exact_mod_cast hless

/-- The 53 binary places are the only ones. -/
theorem losesDigits_iff (hlow : 2 ^ 52 ≤ m) (hhigh : m < 2 ^ 53) (h : x.magnitude = m * 2 ^ e) :
    x.LosesDigits ↔ LosesPlace m := by
  refine ⟨?_, fun hloses => ⟨m, e, hlow, hhigh, h, hloses⟩⟩
  rintro ⟨m', e', hlow', hhigh', h', hloses⟩
  have hle : ∀ {m m' : Nat} {e e' : Int}, 2 ^ 52 ≤ m → m' < 2 ^ 53 → (m : ℚ) * 2 ^ e = m' * 2 ^ e' → e ≤ e' := by
    intro m m' e e' hm hm' heq
    have hless := (le_mul_zpow hm e).trans_lt (heq ▸ mul_zpow_lt hm' e')
    have := (zpow_lt_zpow_iff_right₀ (by norm_num : (1 : ℚ) < 2)).mp hless
    omega
  have heq : (m : ℚ) * 2 ^ e = m' * 2 ^ e' := h.symm.trans h'
  obtain rfl : e = e' := le_antisymm (hle hlow hhigh' heq) (hle hlow' hhigh heq.symm)
  have hsame : (m : ℚ) = m' := mul_right_cancel₀ (two_zpow_pos e).ne' heq
  rwa [Nat.cast_inj.mp hsame]

/-- A whole number that loses its last place has few binary places behind the point: `m` is no multiple of 128. -/
theorem LosesPlace.le_exponent (h : LosesPlace m) (hn : (n : ℚ) = m * 2 ^ e) : -6 ≤ e := by
  by_contra hless
  obtain ⟨j, hj⟩ := Int.eq_ofNat_of_zero_le (show 0 ≤ -e - 7 by omega)
  have hmultiple : (n : ℚ) * 2 ^ (7 + j) = m := by
    rw [hn, mul_assoc, ← zpow_natCast, ← zpow_add₀ (by norm_num), show e + ((7 + j : Nat) : Int) = 0 by omega, zpow_zero, mul_one]
  have hmultiple' : m = 128 * (n * 2 ^ j) := by
    rw [← Nat.cast_inj (R := ℚ), ← hmultiple, pow_add]
    push_cast
    ring
  have hrest := h.2
  rw [hmultiple', Nat.mul_mod_right] at hrest
  revert hrest
  decide

/-- Whole numbers that are a half apart at most are the same. -/
theorem eq_of_abs_natCast_sub_le {a b : Nat} (h : |(a : ℚ) - b| ≤ 1 / 2) : a = b := by
  have hless : |((a - b : Int) : ℚ)| < 1 := by
    push_cast
    linarith
  have hzero : (a - b : Int) = 0 := Int.abs_lt_one_iff.mp (by exact_mod_cast hless)
  omega

/-- Only zero is nearest to zero. -/
theorem IsNearest.eq_zero (h : IsNearest 0 v) : v = 0 := h.eq_self (m := 0) (e := 0) (by norm_num) (by norm_num) (by simp)

/-- Zero loses no digits. -/
theorem not_losesDigits_of_zero (h : x.magnitude = 0) : ¬x.LosesDigits := by
  rintro ⟨m, e, hlow, -, hvalue, -⟩
  have hpos : (0 : ℚ) < m * 2 ^ e := mul_pos (by exact_mod_cast Nat.lt_of_lt_of_le (by norm_num) hlow) (two_zpow_pos e)
  exact hpos.ne (h.symm.trans hvalue)

/-- A whole number is itself in thousandths exactly if no digit of it is lost. -/
theorem thousandths_roundThousandths_iff (hx : x.InRange) (h : x.magnitude * 1000 < overflow) (hn : x.magnitude = n) :
    x.roundThousandths.thousandths = 1000 * n ↔ ¬x.LosesDigits := by
  obtain ⟨scaled, whole, hscaled, hp, hw, hrounded, hv⟩ := exists_roundThousandths hx h
  -- the product is whole, so the second rounding leaves it as it is
  have hwhole : whole.magnitude = scaled.magnitude := by
    obtain ⟨k, hk⟩ : ∃ k : Nat, scaled.magnitude = k := by
      have hproduct : x.magnitude * 1000 = (n * 1000 : Nat) := by
        rw [hn]
        push_cast
        rfl
      rw [hproduct] at hp
      exact hp.exists_natCast
    rw [hk, floor_add_half, ← hk] at hw
    cases hscaled with
    | finite negative hm hlow => exact hw.eq_self hm hlow rfl
  rw [hwhole] at hv
  have hnear := abs_thousandths_sub_le hrounded
  by_cases hzero : n = 0
  · subst hzero
    rw [Nat.cast_zero] at hn
    rw [hn, zero_mul] at hp
    rw [hp.eq_zero, zero_div] at hv
    rw [hv.eq_zero, zero_mul, ← Nat.cast_zero] at hnear
    exact iff_of_true (eq_of_abs_natCast_sub_le hnear) (not_losesDigits_of_zero hn)
  · obtain ⟨m, e, hlow, hhigh, he, hvalue⟩ := hx.exists_places hn hzero
    rw [hvalue] at hp
    obtain ⟨hback, haway⟩ := hp.scaled_back hv hlow hhigh (by omega)
    rw [losesDigits_iff hlow hhigh hvalue]
    rw [← hvalue, hn] at hback haway
    constructor
    · intro heq hloses
      rw [heq] at hnear
      have hplace : (2 : ℚ) ^ (-6 : Int) ≤ 2 ^ e :=
        zpow_le_zpow_right₀ (by norm_num) (hloses.le_exponent (hn.symm.trans hvalue))
      have hfar := hplace.trans (haway hloses)
      push_cast at hnear
      rw [mul_comm, ← sub_mul, abs_mul, abs_sub_comm] at hnear
      norm_num at hnear hfar
      linarith
    · intro hkeeps
      rw [hback hkeeps] at hnear
      refine eq_of_abs_natCast_sub_le ?_
      rwa [Nat.cast_mul, mul_comm]

/-! ## Numbers that round to zero -/

/-- The least thousandths are far above the least numbers. -/
theorem two_zpow_le_of_thousandth (hr : 1 / 2000 ≤ r) : (2 : ℚ) ^ (-1022 : Int) ≤ r := by
  have hpower : (2 : ℚ) ^ (-1022 : Int) ≤ 2 ^ (-11 : Int) := zpow_le_zpow_right₀ (by norm_num) (by norm_num)
  refine (hpower.trans ?_).trans hr
  norm_num

/-- A number that is not rounded to zero has a thousandth or more. -/
theorem thousandths_eq_zero_iff (hx : x.InRange) (h : x.magnitude * 1000 < overflow) :
    x.roundThousandths.thousandths = 0 ↔ x.roundThousandths.magnitude = 0 := by
  obtain ⟨scaled, whole, hscaled, hp, hw, hrounded, hv⟩ := exists_roundThousandths hx h
  have hnear := abs_thousandths_sub_le hrounded
  constructor
  · intro hzero
    rw [hzero, Nat.cast_zero, zero_sub, abs_neg, abs_of_nonneg (mul_nonneg (magnitude_nonneg _) (by norm_num))] at hnear
    generalize ⌊scaled.magnitude + 1 / 2⌋₊ = k at hw
    by_cases hk : k = 0
    · subst hk
      rw [Nat.cast_zero] at hw
      rw [hw.eq_zero, zero_div] at hv
      exact hv.eq_zero
    · have hone : (1 : ℚ) ≤ k := by exact_mod_cast Nat.one_le_iff_ne_zero.mpr hk
      have hwhole := (abs_le.mp (hw.abs_sub_le (two_zpow_le_of_thousandth (by linarith)))).1
      have hrest := (abs_le.mp (hv.abs_sub_le (two_zpow_le_of_thousandth (by linarith)))).1
      norm_num at hwhole hrest
      linarith
  · intro hzero
    rw [hzero, zero_mul, ← Nat.cast_zero] at hnear
    exact eq_of_abs_natCast_sub_le hnear

/-- Zero is rounded to zero. -/
theorem magnitude_roundThousandths_of_zero (hx : x.InRange) (hzero : x.magnitude = 0) : x.roundThousandths.magnitude = 0 := by
  have hsmall : x.magnitude * 1000 < overflow := by
    rw [hzero, zero_mul]
    exact overflow_pos
  have hthousandths := (thousandths_roundThousandths_iff hx hsmall (n := 0) (by simpa using hzero)).mpr
    (not_losesDigits_of_zero hzero)
  exact (thousandths_eq_zero_iff hx hsmall).mp hthousandths

end Phrasebook.Number
