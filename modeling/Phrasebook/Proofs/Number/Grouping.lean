import Phrasebook.Proofs.Json.Numerals
import Phrasebook.Proofs.Number.Thousandths

/-!
# The text of a number in a locale

A number is written with the digits of its integer part in groups of three and up to three decimals (`IsNumberText`), with a sign
if it is negative and not rounded to zero, and a whole number with its own digits (`Shows`). That fails for the numbers whose
product with 1000 is past all numbers, and for the whole numbers that lose digits when they are scaled by 1000
(`shows_grouped_iff`).
-/

namespace Phrasebook.Number

variable {marks : Marks} {separator c : Char} {signed : Bool} {digits integer decimals text s : List Char} {x : Number}
  {n k : Nat}

/-! ## Texts of numbers -/

/-- The digits in groups of three from the right, with a separator in front of each group but the first, which is not empty. -/
def GroupedBy (separator : Char) (digits text : List Char) : Prop :=
  ∃ (first : List Char) (groups : List (List Char)), first ≠ [] ∧ first.length ≤ 3 ∧ (∀ group ∈ groups, group.length = 3) ∧
    digits = first ++ groups.flatten ∧ text = first ++ groups.flatMap fun group => separator :: group

/-- The decimal mark and the decimals, if there are any. -/
def decimalsText (marks : Marks) (decimals : List Char) : List Char :=
  if decimals = [] then [] else marks.decimal :: decimals

/-- The text of a number: a sign perhaps, its integer part in groups, and up to three decimals without a zero at their end. -/
structure IsNumberText (marks : Marks) (signed : Bool) (integer decimals text : List Char) : Prop where
  isDigit : ∀ c ∈ integer ++ decimals, c.isDigit = true
  decimals_length : decimals.length ≤ 3
  last_ne_zero : decimals.getLast? ≠ some '0'
  text : ∃ s, GroupedBy marks.group integer s ∧ text = signText signed ++ (s ++ decimalsText marks decimals)

/-- The text shows the number: there is a sign if it is negative and not all digits are zeros, and a whole number has its own
digits. -/
def Shows (marks : Marks) (x : Number) (text : List Char) : Prop :=
  ∃ signed integer decimals, IsNumberText marks signed integer decimals text ∧
    (signed = true ↔ x.isNegative = true ∧ ∃ c ∈ integer ++ decimals, c ≠ '0') ∧
    ∀ n : Nat, x.magnitude = n → integer = digitsOf n ∧ decimals = []

/-! ## Groups -/

/-- Groups of three have three digits each. -/
theorem length_flatten_groups {groups : List (List Char)} (h : ∀ group ∈ groups, group.length = 3) :
    groups.flatten.length = 3 * groups.length := by
  induction groups with
  | nil => rfl
  | cons group groups ih =>
    rw [List.flatten_cons, List.length_append, h group List.mem_cons_self, ih fun g hg => h g (List.mem_cons_of_mem _ hg),
      List.length_cons]
    omega

/-- A digit in front begins a group of its own if the first group is full, and belongs to it otherwise. -/
theorem groupedBy_groupDigits (hne : digits ≠ []) : GroupedBy separator digits (groupDigits separator digits) := by
  fun_induction groupDigits separator digits with
  | case1 => exact absurd rfl hne
  | case2 d => exact ⟨[d], [], List.cons_ne_nil _ _, by simp, nofun, rfl, rfl⟩
  | case3 d e rest hthree ih =>
    obtain ⟨first, groups, hfirst, hlength, hgroups, hdigits, htext⟩ := ih (List.cons_ne_nil _ _)
    have hsum := congrArg List.length hdigits
    rw [List.length_append, length_flatten_groups hgroups, List.length_cons] at hsum
    have hpos := List.length_pos_iff.mpr hfirst
    have hfull : first.length = 3 := by omega
    refine ⟨[d], first :: groups, List.cons_ne_nil _ _, by simp, ?_, by rw [hdigits]; rfl, by rw [htext]; rfl⟩
    exact List.forall_mem_cons.mpr ⟨hfull, hgroups⟩
  | case4 d e rest hthree ih =>
    obtain ⟨first, groups, hfirst, hlength, hgroups, hdigits, htext⟩ := ih (List.cons_ne_nil _ _)
    have hsum := congrArg List.length hdigits
    rw [List.length_append, length_flatten_groups hgroups, List.length_cons] at hsum
    refine ⟨d :: first, groups, List.cons_ne_nil _ _, ?_, hgroups, by rw [hdigits]; rfl, by rw [htext]; rfl⟩
    rw [List.length_cons]
    omega

/-- There is a digit at least. -/
theorem GroupedBy.ne_nil (h : GroupedBy separator digits s) : digits ≠ [] := by
  obtain ⟨first, groups, hfirst, -, -, rfl, -⟩ := h
  exact List.append_ne_nil_of_left_ne_nil hfirst _

/-- Grouped digits are digits and separators. -/
theorem GroupedBy.mem (h : GroupedBy separator digits s) (hc : c ∈ s) : c ∈ digits ∨ c = separator := by
  obtain ⟨first, groups, -, -, -, rfl, rfl⟩ := h
  rcases List.mem_append.mp hc with hc | hc
  · exact .inl (List.mem_append_left _ hc)
  · obtain ⟨group, hgroup, hc⟩ := List.mem_flatMap.mp hc
    rcases List.mem_cons.mp hc with rfl | hc
    · exact .inr rfl
    · exact .inl (List.mem_append_right _ (List.mem_flatten.mpr ⟨group, hgroup, hc⟩))

/-- Without the separators the digits are left. -/
theorem GroupedBy.filter (h : GroupedBy separator digits s) (hdigits : ∀ c ∈ digits, c.isDigit = true)
    (hseparator : separator.isDigit = false) : s.filter Char.isDigit = digits := by
  obtain ⟨first, groups, -, -, -, rfl, rfl⟩ := h
  have hgroups : ∀ group ∈ groups, (separator :: group).filter Char.isDigit = group := by
    intro group hgroup
    rw [List.filter_cons_of_neg (by simp [hseparator]), List.filter_eq_self]
    exact fun c hc => hdigits c (List.mem_append_right _ (List.mem_flatten.mpr ⟨group, hgroup, hc⟩))
  rw [List.filter_append, List.filter_eq_self.mpr fun c hc => hdigits c (List.mem_append_left _ hc), List.filter_flatMap]
  congr 1
  rw [List.flatten_eq_flatMap]
  exact List.flatMap_congr hgroups

/-! ## The parts of a text -/

/-- The marks are told from digits and signs, and from each other. -/
structure Marks.AreApart (marks : Marks) : Prop where
  group_isDigit : marks.group.isDigit = false
  decimal_isDigit : marks.decimal.isDigit = false
  decimal_ne_group : marks.decimal ≠ marks.group
  decimal_ne_minus : marks.decimal ≠ '-'

/-- In every language the marks are different and no digits. -/
theorem areApart_ofLanguage (language : String) : (Marks.ofLanguage language).AreApart := by
  unfold Marks.ofLanguage
  split
  · exact ⟨by decide, by decide, by decide, by decide⟩
  · split
    · exact ⟨by decide, by decide, by decide, by decide⟩
    · exact ⟨by decide, by decide, by decide, by decide⟩

/-- The integer part and the decimals can be told from the text: the mark stands between them and nowhere else. -/
theorem IsNumberText.parts (h : IsNumberText marks signed integer decimals text) (hmarks : marks.AreApart) :
    integer = (text.takeWhile (· != marks.decimal)).filter Char.isDigit ∧
      decimals = (text.dropWhile (· != marks.decimal)).tail := by
  obtain ⟨s, hs, rfl⟩ := h.text
  have hinteger : ∀ c ∈ integer, c.isDigit = true := fun c hc => h.isDigit c (List.mem_append_left _ hc)
  have hfront : ∀ c ∈ signText signed ++ s, (c != marks.decimal) = true := by
    intro c hc
    rw [bne_iff_ne]
    rintro rfl
    rcases List.mem_append.mp hc with hc | hc
    · cases signed with
      | false => cases hc
      | true => exact hmarks.decimal_ne_minus (List.mem_singleton.mp hc)
    · rcases hs.mem hc with hc | hc
      · exact absurd (hinteger _ hc) (by simp [hmarks.decimal_isDigit])
      · exact hmarks.decimal_ne_group hc
  have hstop : Message.Stops (· != marks.decimal) (decimalsText marks decimals) := by
    unfold decimalsText
    split
    · nofun
    · exact Message.stops_cons (by simp)
  have hsign : (signText signed).filter Char.isDigit = [] := by cases signed <;> rfl
  rw [← List.append_assoc, Message.takeWhile_append hfront hstop, Message.dropWhile_append hfront hstop, List.filter_append,
    hsign, hs.filter hinteger hmarks.group_isDigit]
  refine ⟨rfl, ?_⟩
  unfold decimalsText
  split
  · next hempty => exact hempty
  · rfl

/-- So the digits of a text are known from the text, before and behind its decimal mark. -/
theorem IsNumberText.unique {signed' : Bool} {integer' decimals' : List Char}
    (h : IsNumberText marks signed integer decimals text) (h' : IsNumberText marks signed' integer' decimals' text)
    (hmarks : marks.AreApart) : integer = integer' ∧ decimals = decimals' := by
  obtain ⟨hinteger, hdecimals⟩ := h.parts hmarks
  obtain ⟨hinteger', hdecimals'⟩ := h'.parts hmarks
  exact ⟨hinteger.trans hinteger'.symm, hdecimals.trans hdecimals'.symm⟩

/-! ## Thousandths -/

/-- The decimals of a number of thousandths. -/
def decimalsOf (k : Nat) : List Char := Text.dropEndWhile (· == '0') (threeDigits (k % 1000))

/-- The decimal digits of a natural number are digits. -/
theorem isDigit_of_mem_digitsOf (h : c ∈ digitsOf k) : c.isDigit = true :=
  Nat.isDigit_of_mem_toDigits (by decide) (by decide) h

/-- Decimals are digits, those that fill up with zeros too. -/
theorem isDigit_of_mem_decimalsOf (h : c ∈ decimalsOf k) : c.isDigit = true := by
  have hmem : c ∈ threeDigits (k % 1000) := List.mem_reverse.mp ((List.dropWhile_sublist _).subset (List.mem_reverse.mp h))
  rcases List.mem_append.mp hmem with hzero | hdigit
  · rw [List.eq_of_mem_replicate hzero]
    rfl
  · exact isDigit_of_mem_digitsOf hdigit

/-- There are at most three, as thousandths are counted. -/
theorem length_decimalsOf_le (k : Nat) : (decimalsOf k).length ≤ 3 := by
  have hdigits : (digitsOf (k % 1000)).length ≤ 3 :=
    (Nat.length_toDigits_le_iff (by decide) (by decide)).mpr (Nat.mod_lt k (by decide))
  calc (decimalsOf k).length ≤ (threeDigits (k % 1000)).reverse.length := by
        rw [decimalsOf, Text.dropEndWhile, List.length_reverse]
        exact (List.dropWhile_sublist _).length_le
    _ = 3 := by
        rw [List.length_reverse, threeDigits, List.length_append, zeros, List.length_replicate, Nat.sub_add_cancel hdigits]

/-- The first digit of a number is no zero, so its decimals are dropped for zero alone. -/
theorem decimalsOf_eq_nil_iff (k : Nat) : decimalsOf k = [] ↔ k % 1000 = 0 := by
  rw [decimalsOf, Text.dropEndWhile, List.reverse_eq_nil_iff, List.dropWhile_eq_nil_iff]
  simp only [List.mem_reverse, beq_iff_eq]
  constructor
  · intro hzeros
    by_contra hne
    obtain ⟨c, rest, hc⟩ : ∃ c rest, digitsOf (k % 1000) = c :: rest := List.exists_cons_of_ne_nil Nat.toDigits_ne_nil
    have hhead := Json.head?_digitsOf hne
    rw [hc, List.head?_cons] at hhead
    exact hhead (congrArg some (hzeros c (List.mem_append_right _ (hc ▸ List.mem_cons_self))))
  · intro h
    rw [h, show threeDigits 0 = List.replicate 3 '0' from rfl]
    exact fun c => List.eq_of_mem_replicate

/-- The zeros at their end are dropped. -/
theorem getLast?_decimalsOf_ne (k : Nat) : (decimalsOf k).getLast? ≠ some '0' := by
  rw [decimalsOf, Text.dropEndWhile, List.getLast?_reverse]
  intro hlast
  have hkept := List.head?_dropWhile_not (· == '0') (threeDigits (k % 1000)).reverse
  rw [hlast] at hkept
  cases hkept

/-- A magnitude is written from its number of thousandths alone. -/
theorem groupedMagnitude_eq (marks : Marks) (hx : x.InRange) : groupedMagnitude marks x =
    groupDigits marks.group (digitsOf (x.thousandths / 1000)) ++ decimalsText marks (decimalsOf x.thousandths) := by
  obtain ⟨negative, m, e, rfl⟩ := hx.exists_finite
  change (if (decimalsOf (thousandths (.finite negative m e))).isEmpty then _
    else _ ++ marks.decimal :: decimalsOf (thousandths (.finite negative m e))) = _
  rw [decimalsText]
  cases decimalsOf (thousandths (.finite negative m e)) with
  | nil => exact (List.append_nil _).symm
  | cons c rest => rfl

/-- The text of a magnitude is that of its thousandths. -/
theorem isNumberText_groupedMagnitude (signed : Bool) (marks : Marks) (hx : x.InRange) :
    IsNumberText marks signed (digitsOf (x.thousandths / 1000)) (decimalsOf x.thousandths)
      (signText signed ++ groupedMagnitude marks x) := by
  refine ⟨fun c hc => ?_, length_decimalsOf_le _, getLast?_decimalsOf_ne _, _, groupedBy_groupDigits Nat.toDigits_ne_nil, by rw [groupedMagnitude_eq marks hx]⟩
  rcases List.mem_append.mp hc with hc | hc
  · exact isDigit_of_mem_digitsOf hc
  · exact isDigit_of_mem_decimalsOf hc

/-- Some digit of a number of thousandths is not zero, unless they all are. -/
theorem exists_ne_zero_iff (k : Nat) : (∃ c ∈ digitsOf (k / 1000) ++ decimalsOf k, c ≠ '0') ↔ k ≠ 0 := by
  constructor
  · rintro ⟨c, hc, hne⟩ rfl
    rw [show digitsOf (0 / 1000) ++ decimalsOf 0 = ['0'] by decide, List.mem_singleton] at hc
    exact hne hc
  · intro hk
    rcases List.eq_nil_or_concat (decimalsOf k) with hnone | ⟨front, c, hlast⟩
    · have hinteger : k / 1000 ≠ 0 := by
        have hmod := (decimalsOf_eq_nil_iff k).mp hnone
        omega
      have hhead := Json.head?_digitsOf hinteger
      obtain ⟨c, rest, hc⟩ : ∃ c rest, digitsOf (k / 1000) = c :: rest := List.exists_cons_of_ne_nil Nat.toDigits_ne_nil
      rw [hc, List.head?_cons] at hhead
      exact ⟨c, List.mem_append_left _ (hc ▸ List.mem_cons_self), fun heq => hhead (congrArg some heq)⟩
    · have hne := getLast?_decimalsOf_ne k
      rw [hlast, List.concat_eq_append, List.getLast?_concat] at hne
      refine ⟨c, List.mem_append_right _ ?_, fun heq => hne (congrArg some heq)⟩
      rw [hlast, List.concat_eq_append]
      exact List.mem_append_right _ List.mem_cons_self

/-! ## Signs -/

/-- Either zero counts as zero. -/
theorem eq_zero_iff (hx : x.InRange) : x.eq (zero false) = true ↔ x.magnitude = 0 := by
  obtain ⟨negative, m, e, rfl⟩ := hx.exists_finite
  have hscaled : scaled false 0 (-1074) (min e (-1074)) = 0 := by simp [scaled]
  rw [zero, Number.eq, hscaled, beq_iff_eq, magnitude, mul_eq_zero_iff_right (two_zpow_pos e).ne', Nat.cast_eq_zero, scaled]
  have hpos := pow2_pos (e - min e (-1074))
  have hproduct : m * pow2 (e - min e (-1074)) = 0 ↔ m = 0 := Nat.mul_eq_zero.trans (or_iff_left hpos.ne')
  rw [← hproduct]
  cases negative with
  | false => simp
  | true => simp

/-- A number is negative if it has the sign and is not zero. -/
theorem isNegative_eq_true_iff (hx : x.InRange) : x.isNegative = true ↔ (∃ m e, x = .finite true m e) ∧ x.magnitude ≠ 0 := by
  obtain ⟨negative, m, e, rfl⟩ := hx.exists_finite
  have hzero : (finite negative m e).magnitude = 0 ↔ m = 0 := by
    rw [magnitude, mul_eq_zero_iff_right (two_zpow_pos e).ne', Nat.cast_eq_zero]
  rw [ne_eq, hzero]
  simp [isNegative]

/-- Is a number written with a sign? -/
def isSigned (x : Number) : Bool :=
  match x with
  | .finite negative .. => negative && !x.roundThousandths.eq (zero false)
  | _ => false

/-- The text of a number is that of its magnitude, rounded, behind a sign where one is due. -/
theorem toList_grouped (hx : x.InRange) (locale : String) : (x.grouped locale).toList =
    signText x.isSigned ++ groupedMagnitude (Marks.ofLanguage (languageOf locale)) x.roundThousandths := by
  obtain ⟨negative, m, e, rfl⟩ := hx.exists_finite
  exact String.toList_ofList

/-- A sign is due for a negative number that is not rounded to zero. -/
theorem isSigned_iff (hx : x.InRange) (h : x.magnitude * 1000 < overflow) : x.isSigned = true ↔
    x.isNegative = true ∧ x.roundThousandths.thousandths ≠ 0 := by
  obtain ⟨-, -, -, -, -, hrounded, -⟩ := exists_roundThousandths hx h
  have hzero : x.roundThousandths.eq (zero false) = true ↔ x.roundThousandths.thousandths = 0 :=
    (eq_zero_iff hrounded).trans (thousandths_eq_zero_iff hx h).symm
  have hnonzero : x.roundThousandths.thousandths ≠ 0 → x.magnitude ≠ 0 := fun hne heq =>
    hne ((thousandths_eq_zero_iff hx h).mpr (magnitude_roundThousandths_of_zero hx heq))
  rw [isNegative_eq_true_iff hx]
  obtain ⟨negative, m, e, rfl⟩ := hx.exists_finite
  rw [isSigned, Bool.and_eq_true, Bool.not_eq_true', ← Bool.not_eq_true, hzero]
  constructor
  · rintro ⟨rfl, hne⟩
    exact ⟨⟨⟨m, e, rfl⟩, hnonzero hne⟩, hne⟩
  · rintro ⟨⟨⟨m', e', heq⟩, -⟩, hne⟩
    cases heq
    exact ⟨rfl, hne⟩

/-! ## Every number -/

/-- A number that is scaled past all numbers is shown without digits. -/
theorem toList_grouped_of_overflow (hx : x.InRange) (h : overflow ≤ x.magnitude * 1000) (locale : String) :
    ∃ signed, (x.grouped locale).toList = signText signed ++ ['i', 'n', 'f'] := by
  obtain ⟨negative, hproduct⟩ := (inRange_abs hx).mul_of_overflow_le inRange_thousand
    (by rwa [magnitude_abs, magnitude_thousand])
  obtain ⟨negative', m, e, hthousand⟩ := inRange_thousand.exists_finite
  have hrounded : x.roundThousandths = .infinite (false != negative') := by
    rw [roundThousandths, hproduct, roundMagnitude, hthousand, Number.div]
  rw [toList_grouped hx, hrounded]
  exact ⟨_, rfl⟩

/-- What is not finite is written in letters, which are no digits. -/
theorem not_isNumberText_infinite {signed' : Bool} (hmarks : marks.AreApart) :
    ¬IsNumberText marks signed integer decimals (signText signed' ++ ['i', 'n', 'f']) := by
  intro h
  obtain ⟨s, hs, -⟩ := h.text
  have hnone : (signText signed' ++ ['i', 'n', 'f']).filter Char.isDigit = [] := by cases signed' <;> rfl
  refine hs.ne_nil ((h.parts hmarks).1.trans (List.filter_eq_nil_iff.mpr fun c hc => List.filter_eq_nil_iff.mp hnone c ?_))
  exact (List.takeWhile_prefix _).subset hc

/-- A number is shown in a locale exactly if it is not scaled past all numbers and is no whole number that loses digits. -/
theorem shows_grouped_iff (hx : x.InRange) (locale : String) :
    Shows (Marks.ofLanguage (languageOf locale)) x (x.grouped locale).toList ↔
      x.magnitude * 1000 < overflow ∧ ∀ n : Nat, x.magnitude = n → ¬x.LosesDigits := by
  have hmarks := areApart_ofLanguage (languageOf locale)
  constructor
  · rintro ⟨signed, integer, decimals, htext, -, hwhole⟩
    have hsmall : x.magnitude * 1000 < overflow := by
      by_contra hlarge
      obtain ⟨signed', hinfinite⟩ := toList_grouped_of_overflow hx (not_lt.mp hlarge) locale
      rw [hinfinite] at htext
      exact not_isNumberText_infinite hmarks htext
    refine ⟨hsmall, fun n hn => (thousandths_roundThousandths_iff hx hsmall hn).mp ?_⟩
    obtain ⟨-, -, -, -, -, hrounded, -⟩ := exists_roundThousandths hx hsmall
    obtain ⟨rfl, rfl⟩ := hwhole n hn
    rw [toList_grouped hx] at htext
    obtain ⟨hinteger, hdecimals⟩ := htext.unique (isNumberText_groupedMagnitude _ _ hrounded) hmarks
    have hquotient := congrArg Text.decimalNumber hinteger
    rw [Json.decimalNumber_digitsOf, Json.decimalNumber_digitsOf] at hquotient
    have hrest := (decimalsOf_eq_nil_iff _).mp hdecimals.symm
    omega
  · rintro ⟨hsmall, hkeeps⟩
    obtain ⟨-, -, -, -, -, hrounded, -⟩ := exists_roundThousandths hx hsmall
    refine ⟨x.isSigned, _, _, toList_grouped hx locale ▸ isNumberText_groupedMagnitude _ _ hrounded, ?_, fun n hn => ?_⟩
    · rw [exists_ne_zero_iff]
      exact isSigned_iff hx hsmall
    · rw [decimalsOf_eq_nil_iff, (thousandths_roundThousandths_iff hx hsmall hn).mpr (hkeeps n hn)]
      exact ⟨by rw [Nat.mul_div_cancel_left n (by decide)], Nat.mul_mod_right 1000 n⟩

/-- A negative whole number in seven digits, with points between the groups. -/
theorem shows_grouped_iff_million : Shows (Marks.ofLanguage "de") (.finite true 1234567 0) "-1.234.567".toList ∧
    (finite true 1234567 0).grouped "de-AT" = "-1.234.567" := by
  have hx : (finite true 1234567 0).InRange := .finite true (by norm_num) (by norm_num) (by norm_num)
  have hvalue : (finite true 1234567 0).magnitude = (1234567 * 2 ^ 32 : Nat) * 2 ^ (-32 : Int) := by norm_num [magnitude]
  have hsmall : (finite true 1234567 0).magnitude * 1000 < overflow := by
    have hless := natCast_lt_overflow_of_lt (n := 1234567000) (by norm_num)
    norm_num [magnitude] at hless ⊢
    exact hless
  have hkeeps : ¬(finite true 1234567 0).LosesDigits := by
    rw [losesDigits_iff (by norm_num) (by norm_num) hvalue]
    decide
  have htext : (finite true 1234567 0).grouped "de-AT" = "-1.234.567" := by decide +kernel
  have hlanguage : languageOf "de-AT" = "de" := by decide
  have hshows := (shows_grouped_iff hx "de-AT").mpr ⟨hsmall, fun _ _ => hkeeps⟩
  rw [htext, hlanguage] at hshows
  exact ⟨hshows, htext⟩

/-- A whole number gets decimals that it does not have, and a large one no digits at all. -/
theorem shows_grouped_false : (finite false 72057594037929 0).InRange ∧
    (finite false 72057594037929 0).grouped "en" = "72,057,594,037,928.984" ∧
    ¬Shows (Marks.ofLanguage "en") (.finite false 72057594037929 0) "72,057,594,037,928.984".toList ∧
    (ofDecimal false 1 306).InRange ∧ (ofDecimal false 1 306).grouped "en" = "inf" := by
  refine ⟨by decide, by decide +kernel, ?_, by decide +kernel, by decide +kernel⟩
  rintro ⟨signed, integer, decimals, htext, -, hwhole⟩
  obtain ⟨-, hnone⟩ := hwhole 72057594037929 (by simp [magnitude])
  have hdecimals := (htext.parts (areApart_ofLanguage "en")).2
  rw [hnone] at hdecimals
  revert hdecimals
  decide

end Phrasebook.Number
