import Mathlib.Data.List.Basic
import Mathlib.Order.Nat
import Phrasebook.Unicode.CaseMap
import Phrasebook.Unicode.Numeric

/-!
# What letters become in another case

The upper and the lower case of a letter or numeral is not empty and begins with a letter or numeral, and only where it is
the character itself does it begin with it (`IsCaseOf`). Capitals are their own upper case, and small letters are letters.

These are facts about whole tables. A table is checked stride by stride: the strides of two tables have no code point in
common (`areApart`), or all code points of a stride are letters (`Stride.isLettered`). For this the ranges of the letters are
searched as a tree (`RangeTree`).
-/

namespace Phrasebook.Unicode

variable {c : Char} {n low high : Nat} {s t : Stride}

/-! ## Ranges and strides -/

/-- What a table has lies in one of its ranges. -/
theorem exists_of_has {table : Ranges} (h : table.has n = true) : ∃ r ∈ table, r.1 ≤ n ∧ n ≤ r.2 := by
  fun_induction Ranges.has table n with
  | case1 => cases h
  | case2 => cases h
  | case3 first last rest n hfirst ih =>
    rcases Bool.or_eq_true_iff.mp h with h | h
    · exact ⟨(first, last), List.mem_cons_self, Nat.le_of_not_lt hfirst, of_decide_eq_true h⟩
    · obtain ⟨r, hr, hin⟩ := ih h
      exact ⟨r, List.mem_cons_of_mem _ hr, hin⟩

/-- A table that is searched in order finds every code point of its ranges. -/
theorem has_of_mem {table : Ranges} {r : Nat × Nat} (hascending : (table.map Prod.fst).IsChain (· ≤ ·)) (hr : r ∈ table)
    (hlow : r.1 ≤ n) (hhigh : n ≤ r.2) : table.has n = true := by
  rw [List.isChain_iff_pairwise, List.pairwise_map] at hascending
  induction table with
  | nil => cases hr
  | cons r' rest ih =>
    obtain ⟨hfirst, hrest⟩ := List.pairwise_cons.mp hascending
    rcases List.mem_cons.mp hr with rfl | hr
    · rw [Ranges.has, if_neg (Nat.not_lt.mpr hlow), decide_eq_true hhigh, Bool.true_or]
    · rw [Ranges.has, if_neg (Nat.not_lt.mpr ((hfirst r hr).trans hlow)), ih hrest hr, Bool.or_true]

/-- Ascending ranges as a search tree. -/
inductive RangeTree where
  | empty
  | node (left : RangeTree) (first last : Nat) (right : RangeTree)

namespace RangeTree

/-- The ranges of a tree from left to right. -/
def ranges : RangeTree → Ranges
  | empty => []
  | node left first last right => left.ranges ++ (first, last) :: right.ranges

/-- The tree of a given depth that takes as many of the ranges as fit in, and the ranges that do not. -/
def build : Nat → Ranges → RangeTree × Ranges
  | 0, table => (empty, table)
  | depth + 1, table =>
    match build depth table with
    | (left, []) => (left, [])
    | (left, (first, last) :: rest) => ((node left first last (build depth rest).1), (build depth rest).2)

/-- The tree holds the ranges of the table from the left, and what is left over stays in order. -/
theorem ranges_build (depth : Nat) (table : Ranges) : (build depth table).1.ranges ++ (build depth table).2 = table := by
  fun_induction build depth table with
  | case1 => rfl
  | case2 depth table left hleft ih =>
    rw [hleft] at ih
    exact ih
  | case3 depth table left first last rest hleft ih ihrest =>
    rw [hleft] at ih
    rw [ranges, List.append_assoc, List.cons_append, ihrest]
    exact ih

/-- Are all code points from `low` to `high` in one of the ranges? -/
def covers : RangeTree → Nat → Nat → Bool
  | empty, _, _ => false
  | node left first last right, low, high =>
    bif low.blt first then left.covers low high
    else bif last.blt low then right.covers low high
    else high.ble last

/-- The tree covers only what lies in one of its ranges. -/
theorem exists_of_covers {tree : RangeTree} (h : tree.covers low high = true) :
    ∃ r ∈ tree.ranges, r.1 ≤ low ∧ high ≤ r.2 := by
  fun_induction covers tree low high with
  | case1 => cases h
  | case2 left first last right low high _ ih =>
    obtain ⟨r, hr, hin⟩ := ih h
    exact ⟨r, List.mem_append_left _ hr, hin⟩
  | case3 left first last right low high _ _ ih =>
    obtain ⟨r, hr, hin⟩ := ih h
    exact ⟨r, List.mem_append_right _ (List.mem_cons_of_mem _ hr), hin⟩
  | case4 left first last right low high hfirst =>
    rw [Bool.eq_false_iff, ne_eq, Nat.blt_eq, Nat.not_lt] at hfirst
    exact ⟨(first, last), List.mem_append_right _ List.mem_cons_self, hfirst, Nat.le_of_ble_eq_true h⟩

end RangeTree

/-- A stride has every so many code points from its first to its last. -/
theorem has_iff : s.has n = true ↔ s.first ≤ n ∧ n ≤ s.last ∧ (n - s.first) % s.step = 0 := by
  simp [Stride.has, and_assoc]

/-- What a table of strides has is in one of them. -/
theorem exists_of_stridesHas {table : Strides} (h : table.has n = true) : ∃ s ∈ table, s.has n = true := by
  fun_induction Strides.has table n with
  | case1 => cases h
  | case2 => cases h
  | case3 s rest n _ ih =>
    rcases Bool.or_eq_true_iff.mp h with h | h
    · exact ⟨s, List.mem_cons_self, h⟩
    · obtain ⟨s', hs', hin⟩ := ih h
      exact ⟨s', List.mem_cons_of_mem _ hs', hin⟩

/-- Every code point of a stride is in one of its ranges. -/
theorem exists_range_of_has (h : s.has n = true) : ∃ r ∈ s.ranges, r.1 ≤ n ∧ n ≤ r.2 := by
  obtain ⟨hfirst, hlast, hstep⟩ := has_iff.mp h
  unfold Stride.ranges
  split
  · exact ⟨_, List.mem_singleton_self _, hfirst, hlast⟩
  · have hn : n = s.first + (n - s.first) / s.step * s.step := by
      have hdiv := Nat.div_add_mod' (n - s.first) s.step
      omega
    have hle : (n - s.first) / s.step ≤ (s.last - s.first) / s.step := Nat.div_le_div_right (by omega)
    refine ⟨_, List.mem_map.mpr ⟨(n - s.first) / s.step, List.mem_range.mpr (by omega), rfl⟩, ?_, ?_⟩
    · exact Nat.le_of_eq hn.symm
    · exact Nat.le_of_eq hn

/-- Have the strides no code point in common? One lies before the other, or one is a single code point that the other leaves
out, or both take every second one, the one the even and the other the odd ones. -/
def Stride.isApart (s t : Stride) : Bool :=
  s.last.blt t.first || t.last.blt s.first ||
    (if s.first = s.last then !t.has s.first
    else if t.first = t.last then !s.has t.first
    else s.step == 2 && t.step == 2 && (s.first + t.first) % 2 == 1)

/-- Strides are apart if their ends are, or if their steps never meet. -/
theorem has_eq_false_of_isApart (h : s.isApart t = true) (hs : s.has n = true) : t.has n = false := by
  rw [Bool.eq_false_iff]
  intro ht
  obtain ⟨hfirst, hlast, hstep⟩ := has_iff.mp hs
  obtain ⟨hfirst', hlast', hstep'⟩ := has_iff.mp ht
  simp only [Stride.isApart, Bool.or_eq_true, Nat.blt_eq] at h
  rcases h with (h | h) | h
  · omega
  · omega
  · split at h
    · obtain rfl : n = s.first := by omega
      simp [ht] at h
    · split at h
      · obtain rfl : n = t.first := by omega
        simp [hs] at h
      · simp only [Bool.and_eq_true, beq_iff_eq] at h
        obtain ⟨⟨h2, h2'⟩, hodd⟩ := h
        rw [h2] at hstep
        rw [h2'] at hstep'
        omega

/-- Has the stride no code point in common with those of an ascending table? The search ends at the first one that starts
behind it. -/
def Stride.isApartFrom (s : Stride) : Strides → Bool
  | [] => true
  | t :: rest => s.last.blt t.first || s.isApart t && s.isApartFrom rest

/-- In an ascending table only the strides in front have to be compared: all later ones begin behind. -/
theorem has_eq_false_of_isApartFrom {table : Strides} (hascending : (table.map Stride.first).Pairwise (· ≤ ·))
    (h : s.isApartFrom table = true) (hn : s.has n = true) (ht : t ∈ table) : t.has n = false := by
  induction table with
  | nil => cases ht
  | cons t' rest ih =>
    obtain ⟨hfirst, hrest⟩ := List.pairwise_cons.mp hascending
    rcases Bool.or_eq_true_iff.mp h with hbehind | h
    · have hle : t'.first ≤ t.first := by
        rcases List.mem_cons.mp ht with rfl | ht
        · exact Nat.le_refl _
        · exact hfirst _ (List.mem_map_of_mem ht)
      rw [Nat.blt_eq] at hbehind
      refine has_eq_false_of_isApart ?_ hn
      simp [Stride.isApart, Nat.blt_eq.mpr (hbehind.trans_le hle)]
    · obtain ⟨hhead, htail⟩ := Bool.and_eq_true_iff.mp h
      rcases List.mem_cons.mp ht with rfl | ht
      · exact has_eq_false_of_isApart hhead hn
      · exact ih hrest htail ht

/-- Have two ascending tables no code point in common? The strides of the second one that end before a stride of the first
starts are left behind. -/
def areApart : Strides → Strides → Bool
  | [], _ => true
  | s :: rest, table =>
    let ahead := table.dropWhile fun t => t.last.blt s.first
    s.isApartFrom ahead && areApart rest ahead

/-- So two ascending tables are compared stride by stride. -/
theorem has_eq_false_of_areApart {strides table : Strides} (hstrides : (strides.map Stride.first).Pairwise (· ≤ ·))
    (htable : (table.map Stride.first).Pairwise (· ≤ ·)) (h : areApart strides table = true) (hs : s ∈ strides)
    (hn : s.has n = true) (ht : t ∈ table) : t.has n = false := by
  induction strides generalizing table with
  | nil => cases hs
  | cons s' rest ih =>
    obtain ⟨hfirst, hrest⟩ := List.pairwise_cons.mp hstrides
    obtain ⟨hhead, htail⟩ := Bool.and_eq_true_iff.mp h
    have hahead := htable.sublist ((List.dropWhile_sublist fun t => t.last.blt s'.first).map Stride.first)
    have hle : s'.first ≤ s.first := by
      rcases List.mem_cons.mp hs with rfl | hs
      · exact Nat.le_refl _
      · exact hfirst _ (List.mem_map_of_mem hs)
    rw [← List.takeWhile_append_dropWhile (p := fun t => t.last.blt s'.first) (l := table), List.mem_append] at ht
    rcases ht with hbehind | ht
    · have hlast := List.all_eq_true.mp List.all_takeWhile t hbehind
      refine has_eq_false_of_isApart ?_ hn
      rw [Nat.blt_eq] at hlast
      simp [Stride.isApart, Nat.blt_eq.mpr (hlast.trans_le hle)]
    · rcases List.mem_cons.mp hs with rfl | hs
      · exact has_eq_false_of_isApartFrom hahead hhead hn ht
      · exact ih hrest hahead htail hs ht

/-! ## Letters -/

/-- The ranges of all letters. -/
def letterRanges : Ranges := (0x41, 0x5a) :: (0x61, 0x7a) :: alphabeticRanges

/-- They ascend, and the halves of surrogate pairs are between them. -/
theorem letterRanges_valid : (letterRanges.map Prod.fst).IsChain (· ≤ ·) ∧
    (letterRanges.all fun r => r.2.blt 0xd800 || (Nat.blt 0xdfff r.1 && r.2.blt 0x110000)) = true := by
  decide +kernel

/-- No half of a surrogate pair is a letter. -/
theorem isValidChar_of_letter (h : letterRanges.has n = true) : n.isValidChar := by
  obtain ⟨r, hr, hlow, hhigh⟩ := exists_of_has h
  have hrange := List.all_eq_true.mp letterRanges_valid.2 r hr
  simp only [Bool.or_eq_true, Bool.and_eq_true, Nat.blt_eq] at hrange
  rw [Nat.isValidChar]
  omega

/-- A code point is that of its character, if it has one. -/
theorem toNat_ofNat (h : n.isValidChar) : (Char.ofNat n).toNat = n := by
  rw [Char.ofNat, dif_pos h]
  rfl

/-- The letters of the table are letters, besides those of ASCII. -/
theorem isAlphanumeric_of_has (h : letterRanges.has c.toNat = true) : isAlphanumeric c = true := by
  rw [isAlphanumeric, isAlphabetic, Bool.or_eq_true, Bool.or_eq_true]
  simp only [letterRanges, Ranges.has] at h
  split at h
  · cases h
  · rcases Bool.or_eq_true_iff.mp h with hupper | h
    · left; left
      delta Char.isAlpha Char.isUpper
      simp only [Bool.or_eq_true, decide_eq_true_eq, UInt32.le_iff_toNat_le, ge_iff_le] at hupper ⊢
      have hval : c.toNat = c.val.toNat := rfl
      simp
      omega
    · split at h
      · cases h
      · rcases Bool.or_eq_true_iff.mp h with hlower | h
        · left; left
          delta Char.isAlpha Char.isLower
          simp only [Bool.or_eq_true, Bool.and_eq_true, decide_eq_true_eq, UInt32.le_iff_toNat_le, ge_iff_le] at hlower ⊢
          have hval : c.toNat = c.val.toNat := rfl
          simp
          omega
        · exact .inl (.inr h)

/-- The ranges of all letters as a tree. -/
def letterTree : RangeTree := (RangeTree.build 10 letterRanges).1

/-- The code points of a range of the tree are letters. -/
theorem letter_of_covers (h : letterTree.covers low high = true) (hlow : low ≤ n) (hhigh : n ≤ high) :
    letterRanges.has n = true := by
  obtain ⟨r, hr, hfirst, hlast⟩ := RangeTree.exists_of_covers h
  have hmem : r ∈ letterRanges := by
    rw [← RangeTree.ranges_build 10 letterRanges]
    exact List.mem_append_left _ hr
  exact has_of_mem letterRanges_valid.1 hmem (hfirst.trans hlow) (hhigh.trans hlast)

/-- Are all code points of the stride letters? Most strides lie within one range. -/
def Stride.isLettered (s : Stride) : Bool :=
  letterTree.covers s.first s.last || s.ranges.all fun r => letterTree.covers r.1 r.2

/-- Every code point of such a stride is a letter. -/
theorem letter_of_isLettered (h : s.isLettered = true) (hs : s.has n = true) : letterRanges.has n = true := by
  rcases Bool.or_eq_true_iff.mp h with h | h
  · obtain ⟨hfirst, hlast, -⟩ := has_iff.mp hs
    exact letter_of_covers h hfirst hlast
  · obtain ⟨r, hr, hlow, hhigh⟩ := exists_range_of_has hs
    exact letter_of_covers (List.all_eq_true.mp h r hr) hlow hhigh

/-! ## ASCII -/

/-- The letters of the library are those of ASCII. -/
theorem toNat_lt_of_isAlpha (h : c.isAlpha = true) : c.toNat < 0x80 := by
  delta Char.isAlpha Char.isUpper Char.isLower at h
  simp [UInt32.le_iff_toNat_le] at h
  omega

/-- Its small letters are among them. -/
theorem isAlpha_of_isLower (h : c.isLower = true) : c.isAlpha = true := Bool.or_eq_true_iff.mpr (.inr h)

/-- None of the letters is a digit. -/
theorem isDigit_eq_false_of_isAlpha (h : c.isAlpha = true) : c.isDigit = false := by
  rw [Bool.eq_false_iff]
  intro hdigit
  delta Char.isAlpha Char.isUpper Char.isLower at h
  simp [Char.isDigit, UInt32.le_iff_toNat_le] at h hdigit
  omega

/-- What holds of all ASCII characters by number holds of each. -/
theorem forall_ascii {P : Char → Prop} (h : ∀ n < 128, P (Char.ofNat n)) (hc : c.toNat < 0x80) : P c :=
  Char.ofNat_toNat c ▸ h c.toNat hc

/-- In lower case an ASCII character is one, of the same kind, and every letter is a small one. -/
theorem toLower_of_ascii (h : c.toNat < 0x80) : c.toLower.toNat < 0x80 ∧ c.toLower.isAlphanum = c.isAlphanum ∧
    c.toLower.isLower = c.isAlpha ∧ c.toLower.isDigit = c.isDigit ∧ c.toLower.toLower = c.toLower := by
  apply forall_ascii _ h
  decide

/-- In upper case an ASCII character is one, of the same kind, and every letter is a capital, with the same small letter. -/
theorem toUpper_of_ascii (h : c.toNat < 0x80) : c.toUpper.toNat < 0x80 ∧ c.toUpper.isAlphanum = c.isAlphanum ∧
    c.toUpper.isUpper = c.isAlpha ∧ c.toUpper.isLower = false ∧ c.toUpper.isDigit = c.isDigit ∧
    c.toUpper.toLower = c.toLower ∧ c.toUpper.toUpper = c.toUpper := by
  apply forall_ascii _ h
  decide

/-- The two cases of an ASCII character are different exactly if it is a letter. -/
theorem toLower_ne_toUpper_iff (h : c.toNat < 0x80) : c.toLower ≠ c.toUpper ↔ c.isAlpha = true := by
  apply forall_ascii _ h
  decide

/-- The classes of ASCII characters are the usual ones: the tables begin above them. -/
theorem classes_of_ascii (h : c.toNat < 0x80) : isUppercase c = c.isUpper ∧ isLowercase c = c.isLower ∧
    isNumeric c = c.isDigit ∧ isAlphanumeric c = c.isAlphanum := by
  have huppercase : uppercaseStrides.has c.toNat = false := if_pos (show c.toNat < 0xc0 by omega)
  have hlowercase : lowercaseStrides.has c.toNat = false := if_pos (show c.toNat < 0xaa by omega)
  have halphabetic : alphabeticRanges.has c.toNat = false := if_pos (show c.toNat < 0xaa by omega)
  have hnumeric : numericRanges.has c.toNat = false := if_pos (show c.toNat < 0xb2 by omega)
  simp only [isUppercase, isLowercase, isNumeric, isAlphanumeric, isAlphabetic, Char.isAlphanum, huppercase, hlowercase,
    halphabetic, hnumeric, Bool.or_false, and_self]

/-- Whether an ASCII character is a letter or numeral does not depend on its case. -/
theorem isAlphanumeric_toLower (h : c.toNat < 0x80) : isAlphanumeric c.toLower = isAlphanumeric c := by
  obtain ⟨hascii, hsame, -⟩ := toLower_of_ascii h
  rw [(classes_of_ascii h).2.2.2, (classes_of_ascii hascii).2.2.2, hsame]

/-- The same for its upper case. -/
theorem isAlphanumeric_toUpper (h : c.toNat < 0x80) : isAlphanumeric c.toUpper = isAlphanumeric c := by
  obtain ⟨hascii, hsame, -⟩ := toUpper_of_ascii h
  rw [(classes_of_ascii h).2.2.2, (classes_of_ascii hascii).2.2.2, hsame]

/-! ## Shifts -/

/-- The code points that are moved. -/
def Shift.stride (s : Shift) : Stride := ⟨s.first, s.last, s.step⟩

/-- The code points that they are moved to. -/
def Shift.image (s : Shift) : Stride := ⟨((s.first : Int) + s.delta).toNat, ((s.last : Int) + s.delta).toNat, s.step⟩

/-- A code point is moved by the first shift whose stride has it. -/
theorem exists_of_shiftBy {table : List Shift} {m : Nat} (h : shiftBy table n = some m) :
    ∃ s ∈ table, s.stride.has n = true ∧ m = ((n : Int) + s.delta).toNat := by
  obtain ⟨s, hs, hm⟩ := Option.map_eq_some_iff.mp h
  have hhas : s.stride.has n = true := by simpa [Shift.stride] using List.find?_some hs
  exact ⟨s, List.mem_of_find?_eq_some hs, hhas, hm.symm⟩

/-- A code point that is moved goes to the image of its stride. -/
theorem has_image {s : Shift} (hpos : 0 ≤ (s.first : Int) + s.delta) (h : s.stride.has n = true) :
    s.image.has ((n : Int) + s.delta).toNat = true := by
  obtain ⟨hfirst, hlast, hstep⟩ := has_iff.mp h
  simp only [Shift.stride] at hfirst hlast hstep
  refine has_iff.mpr ⟨?_, ?_, ?_⟩
  · simp only [Shift.image]
    omega
  · simp only [Shift.image]
    omega
  · have hsub : ((n : Int) + s.delta).toNat - ((s.first : Int) + s.delta).toNat = n - s.first := by omega
    simpa only [Shift.image, hsub] using hstep

/-- Does the table move code points to letters only? -/
def isLetteredTable (table : List Shift) : Bool :=
  table.all fun s => decide (0 ≤ (s.first : Int) + s.delta) && s.image.isLettered

/-- What such a table moves a code point to is a letter. -/
theorem letter_of_shiftBy {table : List Shift} {m : Nat} (htable : isLetteredTable table = true)
    (h : shiftBy table n = some m) : letterRanges.has m = true := by
  obtain ⟨s, hs, hhas, rfl⟩ := exists_of_shiftBy h
  have hshift := List.all_eq_true.mp htable s hs
  rw [Bool.and_eq_true, decide_eq_true_eq] at hshift
  exact letter_of_isLettered hshift.2 (has_image hshift.1 hhas)

/-! ## The tables -/

/-- Does a character become a letter, another than itself, and other letters or marks? -/
def isExpansion (entry : Nat × List Nat) : Bool :=
  match entry.2 with
  | [] => false
  | first :: others => letterTree.covers first first && first != entry.1 &&
      others.all fun n => n.blt 0xd800 && (Nat.ble 0x80 n || letterTree.covers n n)

/-- Small letters are letters, and letters are what the characters become whose case is changed. -/
theorem tables_lettered : (lowercaseStrides.all Stride.isLettered) = true ∧ isLetteredTable lowerShifts = true ∧
    isLetteredTable upperShifts = true ∧ (upperExpansions.all isExpansion) = true := by
  decide +kernel

/-- The characters that become several ones in upper case. -/
def expandedStrides : Strides := upperExpansions.map fun entry => ⟨entry.1, entry.1, 1⟩

/-- The characters that become another one in upper case. -/
def movedStrides : Strides := upperShifts.map Shift.stride

/-- Capitals are not among them. -/
theorem capitals_apart : ∀ table ∈ [expandedStrides, movedStrides], (uppercaseStrides.map Stride.first).IsChain (· ≤ ·) ∧
    (table.map Stride.first).IsChain (· ≤ ·) ∧ areApart uppercaseStrides table = true := by
  decide +kernel

/-- No capital is changed by putting it in upper case, since no stride of the tables has it. -/
theorem capital_not_mem {table : Strides} (htable : table ∈ [expandedStrides, movedStrides])
    (hn : uppercaseStrides.has n = true) (ht : t ∈ table) : t.has n = false := by
  obtain ⟨hcapitals, hascending, hapart⟩ := capitals_apart table htable
  obtain ⟨s, hs, hhas⟩ := exists_of_stridesHas hn
  exact has_eq_false_of_areApart (List.isChain_iff_pairwise.mp hcapitals) (List.isChain_iff_pairwise.mp hascending) hapart
    hs hhas ht

/-- Small letters are letters. -/
theorem isAlphanumeric_of_isLowercase (h : isLowercase c = true) : isAlphanumeric c = true := by
  rcases Bool.or_eq_true_iff.mp h with h | h
  · simp [isAlphanumeric, isAlphabetic, isAlpha_of_isLower h]
  · obtain ⟨s, hs, hhas⟩ := exists_of_stridesHas h
    exact isAlphanumeric_of_has (letter_of_isLettered (List.all_eq_true.mp tables_lettered.1 s hs) hhas)

/-! ## Cases of letters -/

/-- What a letter or numeral is replaced by when its case is changed: not nothing, a letter or numeral in front, and behind it
perhaps marks. A character that comes first in its own image is all of it. -/
def IsCaseOf (c : Char) (image : List Char) : Prop :=
  ∃ d marks, image = d :: marks ∧ isAlphanumeric d = true ∧ (d = c → marks = []) ∧
    ∀ x ∈ marks, isAlphanumeric x = true ∨ 0x80 ≤ x.toNat

/-- A single letter or numeral is such an image, the character itself or another. -/
theorem isCaseOf_singleton {d : Char} (hd : isAlphanumeric d = true) : IsCaseOf c [d] := ⟨d, [], rfl, hd, fun _ => rfl, nofun⟩

/-- So is a letter from a table. -/
theorem isCaseOf_letter (h : letterRanges.has n = true) : IsCaseOf c [Char.ofNat n] :=
  isCaseOf_singleton (isAlphanumeric_of_has ((toNat_ofNat (isValidChar_of_letter h)).symm ▸ h))

/-- A letter or numeral in lower case is one. -/
theorem isCaseOf_lowerChar (hc : isAlphanumeric c = true) : IsCaseOf c (lowerChar c) := by
  unfold lowerChar
  split
  · next hascii => exact isCaseOf_singleton ((isAlphanumeric_toLower hascii).trans hc)
  · split
    · next hdotted =>
      have hne : 'i' ≠ c := by
        rintro rfl
        revert hdotted
        decide
      exact ⟨'i', [Char.ofNat 0x307], rfl, by decide, fun h => absurd h hne, List.forall_mem_singleton.mpr (.inr (by decide))⟩
    · split
      · next hshift => exact isCaseOf_letter (letter_of_shiftBy tables_lettered.2.1 hshift)
      · exact isCaseOf_singleton hc

/-- So is what a character becomes that becomes several, as the tables were checked. -/
theorem isCaseOf_expansion {entry : Nat × List Nat} (h : isExpansion entry = true) (hc : entry.1 = c.toNat) :
    IsCaseOf c (entry.2.map Char.ofNat) := by
  obtain ⟨code, codes⟩ := entry
  obtain rfl : code = c.toNat := hc
  cases codes with
  | nil => simp [isExpansion] at h
  | cons first others =>
    simp only [isExpansion, Bool.and_eq_true, bne_iff_ne, List.all_eq_true, Nat.blt_eq, Bool.or_eq_true, Nat.ble_eq] at h
    obtain ⟨⟨hfirst, hne⟩, hothers⟩ := h
    have hfirst := letter_of_covers hfirst (Nat.le_refl _) (Nat.le_refl _)
    have hchar := toNat_ofNat (isValidChar_of_letter hfirst)
    refine ⟨Char.ofNat first, others.map Char.ofNat, rfl, isAlphanumeric_of_has (hchar.symm ▸ hfirst), ?_, ?_⟩
    · intro heq
      rw [← heq, hchar] at hne
      exact absurd rfl hne
    · intro x hx
      obtain ⟨n, hn, rfl⟩ := List.mem_map.mp hx
      obtain ⟨hlow, hn⟩ := hothers n hn
      have hvalid : (Char.ofNat n).toNat = n := toNat_ofNat (.inl hlow)
      rcases hn with hn | hn
      · exact .inr (hvalid.symm ▸ hn)
      · exact .inl (isAlphanumeric_of_has (hvalid.symm ▸ letter_of_covers hn (Nat.le_refl _) (Nat.le_refl _)))

/-- A letter or numeral in upper case begins with one. -/
theorem isCaseOf_upperChar (hc : isAlphanumeric c = true) : IsCaseOf c (upperChar c) := by
  unfold upperChar
  split
  · next hascii => exact isCaseOf_singleton ((isAlphanumeric_toUpper hascii).trans hc)
  · split
    · next code codes hfind =>
      have hcode : code = c.toNat := by simpa using List.find?_some hfind
      have hexpansion := List.all_eq_true.mp tables_lettered.2.2.2 _ (List.mem_of_find?_eq_some hfind)
      exact isCaseOf_expansion hexpansion hcode
    · split
      · next hshift => exact isCaseOf_letter (letter_of_shiftBy tables_lettered.2.2.1 hshift)
      · exact isCaseOf_singleton hc

/-- A capital is its own upper case. -/
theorem upperChar_of_isUppercase (h : isUppercase c = true) : upperChar c = [c] := by
  unfold upperChar
  split
  · next hascii =>
    rw [(classes_of_ascii hascii).1] at h
    rw [forall_ascii (P := fun c => c.isUpper = true → c.toUpper = c) (by decide) hascii h]
  · next hbeyond =>
    have hstrides : uppercaseStrides.has c.toNat = true := by
      rcases Bool.or_eq_true_iff.mp h with hupper | hstrides
      · exfalso
        delta Char.isUpper at hupper
        simp only [decide_eq_true_eq, UInt32.le_iff_toNat_le, ge_iff_le] at hupper
        have hval : c.toNat = c.val.toNat := rfl
        simp at hupper
        omega
      · exact hstrides
    split
    · next code codes hfind =>
      have hcode : code = c.toNat := by simpa using List.find?_some hfind
      have hmem : ⟨code, code, 1⟩ ∈ expandedStrides := List.mem_map.mpr ⟨_, List.mem_of_find?_eq_some hfind, rfl⟩
      have hfalse := capital_not_mem List.mem_cons_self hstrides hmem
      simp [Stride.has, hcode] at hfalse
    · split
      · next n hshift =>
        obtain ⟨s, hs, hhas, -⟩ := exists_of_shiftBy hshift
        have hmem : s.stride ∈ movedStrides := List.mem_map_of_mem hs
        rw [capital_not_mem (List.mem_cons_of_mem _ List.mem_cons_self) hstrides hmem] at hhas
        cases hhas
      · rfl

/-! ## Texts in lower case -/

/-- What a character of a text becomes in lower case, between the characters before it, in reverse, and those behind it. -/
def lowerAt (before : List Char) (c : Char) (rest : List Char) : List Char :=
  if c == 'Σ' then (if startsCased before && !startsCased rest then ['ς'] else ['σ']) else lowerChar c

/-- Each character is put into lower case by what stands around it. -/
theorem lowerAfter_cons {before rest : List Char} :
    lowerAfter before (c :: rest) = lowerAt before c rest ++ lowerAfter (c :: before) rest := rfl

/-- A sigma has two forms in lower case, and both are letters. -/
theorem isCaseOf_lowerAt {before rest : List Char} (hc : isAlphanumeric c = true) : IsCaseOf c (lowerAt before c rest) := by
  unfold lowerAt
  split
  · split
    · exact isCaseOf_singleton (by decide)
    · exact isCaseOf_singleton (by decide)
  · exact isCaseOf_lowerChar hc

/-- A character stays as it is in a text exactly if it does by itself: a sigma that is a capital never does. -/
theorem lowerAt_eq_self_iff {before rest : List Char} : lowerAt before c rest = [c] ↔ lowerChar c = [c] := by
  unfold lowerAt
  split
  · next hsigma =>
    obtain rfl : c = 'Σ' := by simpa using hsigma
    have halone : lowerChar 'Σ' = ['σ'] := by decide
    rw [halone]
    split <;> decide
  · exact Iff.rfl

/-! ## Texts of ASCII -/

/-- The tables do not matter to ASCII. -/
theorem lowerChar_of_ascii (h : c.toNat < 0x80) : lowerChar c = [c.toLower] := if_pos h

/-- Neither do they to its upper case. -/
theorem upperChar_of_ascii (h : c.toNat < 0x80) : upperChar c = [c.toUpper] := if_pos h

/-- What stands around an ASCII character does not matter. -/
theorem lowerAt_of_ascii {before rest : List Char} (h : c.toNat < 0x80) : lowerAt before c rest = [c.toLower] := by
  have hsigma : (c == 'Σ') = false := by
    rw [beq_eq_false_iff_ne]
    rintro rfl
    revert h
    decide
  rw [lowerAt, hsigma, if_neg Bool.false_ne_true, lowerChar_of_ascii h]

/-- ASCII text is put into lower case character by character. -/
theorem lower_of_ascii {s : List Char} (h : ∀ c ∈ s, c.toNat < 0x80) : lower s = s.map Char.toLower := by
  have hafter : ∀ before, lowerAfter before s = s.map Char.toLower := by
    induction s with
    | nil => exact fun _ => rfl
    | cons c s ih =>
      intro before
      obtain ⟨hc, hs⟩ := List.forall_mem_cons.mp h
      rw [lowerAfter_cons, ih hs, lowerAt_of_ascii hc]
      rfl
  exact hafter []

end Phrasebook.Unicode
