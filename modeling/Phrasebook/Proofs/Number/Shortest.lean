import Phrasebook.Number.Shortest
import Phrasebook.Proofs.Number.Rounding

/-!
# What the shortest decimal is

The leading place of a number is the place of its first decimal digit (`leadingPlace_spec`), a point that is nearest on a grid
lies at most half a last binary place above the number (`nearestOnGrid?_spec`), and so does the shortest decimal, which has 17
digits at most (`shortest_spec`).
-/

namespace Phrasebook.Number

variable {m digits : Nat} {e place : Int} {tie : Tie}

/-! ## The leading place -/

/-- A power of ten is compared with a number. -/
theorem pow10_mul_le_iff (m : Nat) (e place : Int) :
    pow10 place * pow2 (-e) ≤ m * pow2 e * pow10 (-place) ↔ (10 : ℚ) ^ place ≤ m * 2 ^ e := by
  have hpos : (0 : ℚ) < pow10 (-place) * pow2 (-e) := mul_pos (cast_pow10_pos _) (cast_pow2_pos _)
  have hleft : (pow10 place * pow2 (-e) : ℚ) = 10 ^ place * (pow10 (-place) * pow2 (-e)) := by
    rw [cast_pow10 place, mul_assoc]
  have hright : (m * pow2 e * pow10 (-place) : ℚ) = m * 2 ^ e * (pow10 (-place) * pow2 (-e)) := by
    rw [cast_pow2 e]
    ring
  rw [← mul_le_mul_iff_left₀ hpos, ← hleft, ← hright]
  norm_cast

/-- What is guessed from the first binary place is a decimal place at it or below, and the second above it is past the next
binary place. -/
theorem guess_table : ∀ k ∈ List.range 2098,
    pow10 (((k : Int) - 1074) * 30103 / 100000) * pow2 (-((k : Int) - 1074)) ≤
        1 * pow2 ((k : Int) - 1074) * pow10 (-(((k : Int) - 1074) * 30103 / 100000)) ∧
      ¬pow10 (((k : Int) - 1074) * 30103 / 100000 + 2) * pow2 (-((k : Int) - 1074 + 1)) ≤
        1 * pow2 ((k : Int) - 1074 + 1) * pow10 (-(((k : Int) - 1074) * 30103 / 100000 + 2)) := by
  decide +kernel

theorem guess_spec {k : Int} (hlow : -1074 ≤ k) (hhigh : k < 1024) :
    (10 : ℚ) ^ (k * 30103 / 100000) ≤ 2 ^ k ∧ (2 : ℚ) ^ (k + 1) < 10 ^ (k * 30103 / 100000 + 2) := by
  obtain ⟨j, hj⟩ := Int.eq_ofNat_of_zero_le (show 0 ≤ k + 1074 by omega)
  obtain rfl : k = (j : Int) - 1074 := by omega
  have htable := guess_table j (List.mem_range.mpr (by omega))
  rwa [pow10_mul_le_iff, pow10_mul_le_iff, not_le, Nat.cast_one, one_mul, one_mul] at htable

/-- The leading place is the place of the first decimal digit. -/
theorem leadingPlace_spec (hm : m ≠ 0) (h : (finite false m e).InRange) :
    (10 : ℚ) ^ leadingPlace m e ≤ m * 2 ^ e ∧ m * 2 ^ e < (10 : ℚ) ^ (leadingPlace m e + 1) := by
  obtain ⟨-, hless, hlow, hhigh⟩ := h
  have hlog : m.log2 < 53 := (Nat.log2_lt hm).mpr hless
  obtain ⟨hbelow, habove⟩ := guess_spec (k := m.log2 + e) (by omega) (by omega)
  have hpos : (0 : ℚ) < 2 ^ e := by positivity
  have hfirst : (2 : ℚ) ^ ((m.log2 : Int) + e) ≤ m * 2 ^ e := by
    rw [zpow_add₀ (by norm_num)]
    exact mul_le_mul_of_nonneg_right (two_zpow_log2_le hm) hpos.le
  have hnext : (m : ℚ) * 2 ^ e < 2 ^ ((m.log2 : Int) + e + 1) := by
    rw [add_right_comm, zpow_add₀ (by norm_num)]
    exact mul_lt_mul_of_pos_right (lt_two_zpow_log2 m) hpos
  unfold leadingPlace
  simp only [pow10_mul_le_iff]
  split
  · next hle => exact ⟨hle, by rw [add_assoc]; exact hnext.trans habove⟩
  · next hnot => exact ⟨hbelow.trans hfirst, not_le.mp hnot⟩

/-! ## Grids -/

/-- What is found on a grid is the point below the number, at most half a last binary place away, or so the point above. -/
theorem nearestOnGrid?_cases (h : nearestOnGrid? tie m e place = some digits) :
    ∃ step quarter, step = pow10 place * pow2 (2 - e) ∧ quarter = pow2 (e - 2) * pow10 (-place) ∧
      (digits = 4 * m * quarter / step ∧ 4 * m * quarter - digits * step ≤ 2 * quarter ∨
        digits = 4 * m * quarter / step + 1 ∧ digits * step - 4 * m * quarter ≤ 2 * quarter) := by
  refine ⟨_, _, rfl, rfl, ?_⟩
  unfold nearestOnGrid? at h
  simp only at h
  generalize pow10 place * pow2 (2 - e) = step at h ⊢
  generalize pow2 (e - 2) * pow10 (-place) = quarter at h ⊢
  have hdown : (if m = pow2 52 ∧ e ≠ -1074 then quarter else 2 * quarter) ≤ 2 * quarter := by
    split <;> omega
  generalize (if m = pow2 52 ∧ e ≠ -1074 then quarter else 2 * quarter) = down at h hdown
  generalize 4 * m * quarter = value at h ⊢
  generalize value / step = lower at h ⊢
  have hlower : (value - lower * step < down ∨ m % 2 = 0 ∧ value - lower * step = down) →
      value - lower * step ≤ 2 * quarter := by omega
  have hupper : ((lower + 1) * step - value < 2 * quarter ∨ m % 2 = 0 ∧ (lower + 1) * step - value = 2 * quarter) →
      (lower + 1) * step - value ≤ 2 * quarter := by omega
  split at h
  · next hhits =>
    have hboth : digits = lower ∨ digits = lower + 1 := by
      grind
    rcases hboth with rfl | rfl
    · exact .inl ⟨rfl, hlower hhits.1⟩
    · exact .inr ⟨rfl, hupper hhits.2⟩
  split at h
  · next hhits =>
    obtain rfl := Option.some.inj h
    exact .inl ⟨rfl, hlower hhits⟩
  split at h
  · next hhits =>
    obtain rfl := Option.some.inj h
    exact .inr ⟨rfl, hupper hhits⟩
  · cases h

/-- A point that is nearest on a grid is not zero, lies at most half a last binary place above the number, and at most one step. -/
theorem nearestOnGrid?_spec (hm : m ≠ 0) (h : nearestOnGrid? tie m e place = some digits) :
    digits ≠ 0 ∧ (digits : ℚ) * 10 ^ place ≤ m * 2 ^ e + 2 ^ e / 2 ∧ ((digits : ℚ) - 1) * 10 ^ place ≤ m * 2 ^ e := by
  obtain ⟨step, quarter, hstep, hquarter, hcases⟩ := nearestOnGrid?_cases h
  have hquarter0 : 0 < quarter := hquarter ▸ Nat.mul_pos (pow2_pos _) (pow10_pos _)
  have hdiv : 4 * m * quarter / step * step ≤ 4 * m * quarter := Nat.div_mul_le_self ..
  have hnext : (4 * m * quarter / step + 1) * step = 4 * m * quarter / step * step + step := Nat.succ_mul _ _
  have hfour : 4 * 1 * quarter ≤ 4 * m * quarter := Nat.mul_le_mul_right _ (by omega)
  obtain ⟨hne, hhalf, hone⟩ : digits ≠ 0 ∧ digits * step ≤ 4 * m * quarter + 2 * quarter ∧
      digits * step ≤ 4 * m * quarter + step := by
    generalize 4 * m * quarter = value at hcases hdiv hnext hfour ⊢
    rcases hcases with ⟨hdigits, hnear⟩ | ⟨hdigits, hnear⟩
    · rw [← hdigits] at hdiv
      refine ⟨fun hzero => ?_, by omega, by omega⟩
      rw [hzero, Nat.zero_mul] at hnear
      omega
    · rw [← hdigits] at hnext
      exact ⟨hdigits ▸ Nat.succ_ne_zero _, by omega, by omega⟩
  -- a quarter of the last place and a step in one unit
  obtain ⟨unit, hunit⟩ : ∃ unit : ℚ, unit = pow2 (2 - e) * pow10 (-place) := ⟨_, rfl⟩
  have hunit0 : 0 < unit := hunit ▸ mul_pos (cast_pow2_pos _) (cast_pow10_pos _)
  have hstep' : (step : ℚ) = 10 ^ place * unit := by
    rw [hstep, Nat.cast_mul, cast_pow10 place, hunit]
    ring
  have hquarter' : (quarter : ℚ) = 2 ^ e / 4 * unit := by
    rw [hquarter, Nat.cast_mul, cast_pow2 (e - 2), neg_sub, zpow_sub₀ (by norm_num), hunit]
    norm_num
    ring
  rw [← Nat.cast_le (α := ℚ)] at hhalf hone
  push_cast at hhalf hone
  rw [hstep', hquarter'] at hhalf hone
  refine ⟨hne, ?_, ?_⟩
  · rw [← mul_le_mul_iff_left₀ hunit0]
    linarith
  · rw [← mul_le_mul_iff_left₀ hunit0]
    linarith

/-! ## Shortest decimals -/

/-- A decimal that is not zero, has 17 digits at most, and lies at most half a last binary place above a number. -/
structure IsShort (m : Nat) (e : Int) (d : Decimal) : Prop where
  ne_zero : d.digits ≠ 0
  digits_le : d.digits ≤ 10 ^ 17
  value_le : (d.digits : ℚ) * 10 ^ d.exponent ≤ m * 2 ^ e + 2 ^ e / 2

theorem ten_zpow_add (place : Int) (k : Nat) : (10 : ℚ) ^ (place + k) = 10 ^ k * 10 ^ place := by
  rw [zpow_add₀ (by norm_num), zpow_natCast, mul_comm]

/-- A point that is nearest on a grid is short, with one digit where the point has one digit more than the number. -/
theorem isShort_of_nearestOnGrid? {lead : Int} {more : Nat} (hm : m ≠ 0) (habove : m * 2 ^ e < (10 : ℚ) ^ (lead + 1))
    (hmore : more < 17) (h : nearestOnGrid? tie m e (lead - more) = some digits) :
    IsShort m e (if digits = pow10 (more + 1) then ⟨1, lead + 1⟩ else ⟨digits, lead - more⟩) := by
  obtain ⟨hne, hhalf, hone⟩ := nearestOnGrid?_spec hm h
  have hpow : (10 : ℚ) ^ (lead + 1) = 10 ^ (more + 1) * 10 ^ (lead - more) := by
    rw [← ten_zpow_add]
    congr 1
    push_cast
    ring
  split
  · next hfull =>
    have hcast : (pow10 (more + 1) : ℚ) = 10 ^ (more + 1) := Nat.cast_pow 10 (more + 1)
    rw [hfull, hcast, ← hpow] at hhalf
    exact ⟨one_ne_zero, by norm_num, by simpa using hhalf⟩
  · have hpos : (0 : ℚ) < 10 ^ (lead - more) := by positivity
    have hless : (digits : ℚ) - 1 < 10 ^ (more + 1) := by
      rw [hpow] at habove
      exact lt_of_mul_lt_mul_right (hone.trans_lt habove) hpos.le
    have hle : digits ≤ 10 ^ (more + 1) := Nat.lt_succ_iff.mp (by exact_mod_cast sub_lt_iff_lt_add.mp hless)
    exact ⟨hne, hle.trans (Nat.pow_le_pow_right (by norm_num) (by omega)), hhalf⟩

/-- The first 17 digits of a number are short. -/
theorem isShort_truncated {lead : Int} (hbelow : (10 : ℚ) ^ lead ≤ m * 2 ^ e) (habove : m * 2 ^ e < (10 : ℚ) ^ (lead + 1)) :
    IsShort m e ⟨m * pow2 e * pow10 (16 - lead) / (pow2 (-e) * pow10 (lead - 16)), lead - 16⟩ := by
  obtain ⟨num, hnum⟩ : ∃ num, num = m * pow2 e * pow10 (16 - lead) := ⟨_, rfl⟩
  obtain ⟨den, hden⟩ : ∃ den, den = pow2 (-e) * pow10 (lead - 16) := ⟨_, rfl⟩
  rw [← hnum, ← hden]
  have hden0 : (0 : ℚ) < den := by
    rw [hden, Nat.cast_mul]
    exact mul_pos (cast_pow2_pos _) (cast_pow10_pos _)
  have hunit : (0 : ℚ) < 10 ^ (lead - 16) := by positivity
  have hratio : (num / den : ℚ) = m * 2 ^ e / 10 ^ (lead - 16) := by
    rw [hnum, hden]
    push_cast
    rw [cast_pow2 e, cast_pow10 (lead - 16), neg_sub]
    have hpos := (cast_pow2_pos (-e)).ne'
    have hpos' := (cast_pow10_pos (16 - lead)).ne'
    field_simp
  have hfirst : (10 ^ 16 : ℚ) ≤ num / den := by
    rw [hratio, le_div_iff₀ hunit, ← ten_zpow_add]
    rwa [show lead - 16 + (16 : Nat) = lead by omega]
  have hpast : (num / den : ℚ) < 10 ^ 17 := by
    rw [hratio, div_lt_iff₀ hunit, ← ten_zpow_add]
    rwa [show lead - 16 + (17 : Nat) = lead + 1 by omega]
  have hfloor : ((num / den : Nat) : ℚ) ≤ num / den := by
    rw [le_div_iff₀ hden0]
    exact_mod_cast Nat.div_mul_le_self num den
  refine ⟨?_, ?_, ?_⟩
  · rw [le_div_iff₀ hden0] at hfirst
    have hle : 10 ^ 16 ≤ num / den := (Nat.le_div_iff_mul_le (by exact_mod_cast hden0)).mpr (by exact_mod_cast hfirst)
    exact (Nat.lt_of_lt_of_le (by norm_num) hle).ne'
  · exact_mod_cast (hfloor.trans_lt hpast).le
  · rw [hratio, le_div_iff₀ hunit] at hfloor
    exact hfloor.trans (le_add_of_nonneg_right (by positivity))

theorem shortest_spec (tie : Tie) (hm : m ≠ 0) (h : (finite false m e).InRange) : IsShort m e (shortest tie m e) := by
  obtain ⟨hbelow, habove⟩ := leadingPlace_spec hm h
  simp only [shortest, if_neg hm]
  generalize hfound : List.findSome? _ (List.range 17) = found
  cases found with
  | some d =>
    obtain ⟨more, hmore, hd⟩ := List.exists_of_findSome?_eq_some hfound
    obtain ⟨digits, hdigits, rfl⟩ := Option.map_eq_some_iff.mp hd
    exact isShort_of_nearestOnGrid? hm habove (List.mem_range.mp hmore) hdigits
  | none => exact isShort_truncated hbelow habove

end Phrasebook.Number
