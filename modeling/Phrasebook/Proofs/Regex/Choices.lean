import Mathlib.Data.Finset.Prod
import Mathlib.Data.Finset.Card
import Mathlib.Order.Interval.Finset.Nat
import Phrasebook.Regex.Seen

/-!
# The choices that have been made

The marks say of a choice at a place whether it has been made, as long as its number is below the number of choices and the place
does not stand before the first (`made_insert_iff`). So each choice that is made at a place of a text leaves one less that has
not been made (`card_unmade_insert_lt`), and a search can make all of them.
-/

namespace Phrasebook.Regex.Seen

variable {s : Seen} {n m i j last : Nat}

/-! ## Marks -/

/-- More marks are not set. -/
theorem data_extend (count : Nat) (marks : ByteArray) : (extend count marks).data = marks.data ++ Array.replicate count 0 := by
  induction count generalizing marks with
  | zero => rw [extend, Array.replicate_zero, Array.append_empty]
  | succ count ih =>
    have hpush : (marks.push 0).data = marks.data ++ #[0] := Array.push_eq_append
    rw [extend, ih, hpush, Array.append_assoc, Array.replicate_succ']

/-- A choice has been made if there is a mark in its slot that is set. -/
theorem contains_eq (s : Seen) (n i : Nat) : s.contains n i = (s.marks.data[s.slot n i]?).any (· != 0) := by
  by_cases h : s.slot n i < s.marks.size
  · have hcontains : s.contains n i = (s.marks.get (s.slot n i) h != 0) := dif_pos h
    rw [hcontains, Array.getElem?_eq_getElem h]
    rfl
  · have hcontains : s.contains n i = false := dif_neg h
    rw [hcontains, Array.getElem?_eq_none (Nat.le_of_not_lt h)]
    rfl

/-- The marks after a choice has been made: zeros up to its slot, as far as there were none, and a one in the slot. -/
theorem getElem?_data_insert (s : Seen) (n i k : Nat) : (s.insert n i).marks.data[k]? =
    if k = s.slot n i then some 1
    else (s.marks.data ++ Array.replicate (s.slot n i + 1 - s.marks.data.size) 0)[k]? := by
  have hsize : (extend (s.slot n i + 1 - s.marks.size) s.marks).size = s.marks.size + (s.slot n i + 1 - s.marks.size) := by
    rw [← ByteArray.size_data, data_extend, Array.size_append, Array.size_replicate, ByteArray.size_data]
  have hslot : s.slot n i < (extend (s.slot n i + 1 - s.marks.size) s.marks).size := by omega
  have hinsert : (s.insert n i).marks = (extend (s.slot n i + 1 - s.marks.size) s.marks).set (s.slot n i) 1 hslot :=
    dif_pos hslot
  have hset : ∀ (marks : ByteArray) (k : Nat) (h : k < marks.size), (marks.set k 1 h).data = marks.data.set k 1 h :=
    fun _ _ _ => rfl
  rw [hinsert, hset, Array.getElem?_set, data_extend, ByteArray.size_data]
  simp only [@eq_comm _ k]

/-- What is set is the mark in one slot, which may be that of several choices at several places. -/
theorem contains_insert (s : Seen) (n m i j : Nat) :
    (s.insert n i).contains m j = (s.slot m j == s.slot n i || s.contains m j) := by
  have hslot : (s.insert n i).slot m j = s.slot m j := rfl
  rw [contains_eq, contains_eq, hslot, getElem?_data_insert]
  by_cases heq : s.slot m j = s.slot n i
  · simp [heq]
  · rw [if_neg heq, Array.getElem?_append]
    split
    · next h => simp [heq]
    · next h =>
      rw [Array.getElem?_eq_none (Nat.le_of_not_lt h), Array.getElem?_replicate]
      split <;> simp [heq]

/-- Choices have slots of their own. -/
theorem slot_eq_iff (hn : n < s.choices) (hm : m < s.choices) (hi : s.first ≤ i) (hj : s.first ≤ j) :
    s.slot m j = s.slot n i ↔ m = n ∧ j = i := by
  have hpos : 0 < s.choices := Nat.zero_lt_of_lt hn
  constructor
  · intro h
    have hdiv : ∀ {n i}, n < s.choices → s.slot n i / s.choices = i - s.first ∧ s.slot n i % s.choices = n := fun hn => by
      rw [slot, Nat.mul_comm, Nat.mul_add_div hpos, Nat.div_eq_of_lt hn, Nat.mul_add_mod, Nat.mod_eq_of_lt hn]
      exact ⟨rfl, rfl⟩
    obtain ⟨hni, hnn⟩ := hdiv (i := i) hn
    obtain ⟨hmj, hmm⟩ := hdiv (i := j) hm
    rw [h] at hmj hmm
    omega
  · rintro ⟨rfl, rfl⟩
    rfl

/-- The choice is one of the plan, and it has been made at the place. -/
def Made (s : Seen) (n i : Nat) : Prop := (n < s.choices ∧ s.first ≤ i) ∧ s.contains n i = true

/-- In the range where slots are apart, making a choice at a place makes just this one. -/
theorem made_insert_iff (hn : n < s.choices) (hi : s.first ≤ i) :
    (s.insert n i).Made m j ↔ (m = n ∧ j = i) ∨ s.Made m j := by
  have hrange : (m < (s.insert n i).choices ∧ (s.insert n i).first ≤ j) = (m < s.choices ∧ s.first ≤ j) := rfl
  rw [Made, Made, hrange, contains_insert, Bool.or_eq_true, beq_iff_eq]
  constructor
  · rintro ⟨⟨hm, hj⟩, hslot | hcontains⟩
    · exact .inl ((slot_eq_iff hn hm hi hj).mp hslot)
    · exact .inr ⟨⟨hm, hj⟩, hcontains⟩
  · rintro (⟨rfl, rfl⟩ | ⟨hrange, hcontains⟩)
    · exact ⟨⟨hn, hi⟩, .inl rfl⟩
    · exact ⟨hrange, .inr hcontains⟩

/-- At the start no choice has been made. -/
theorem not_made_empty (choices first n i : Nat) : ¬ (empty choices first).Made n i := by
  rw [Made, contains_eq]
  exact fun h => Bool.false_ne_true h.2

/-! ## How many can still be made -/

/-- The choices that have not been made at places up to a last one. -/
def unmade (s : Seen) (last : Nat) : Finset (Nat × Nat) :=
  (Finset.range s.choices ×ˢ Finset.Icc s.first last).filter fun c => s.contains c.1 c.2 = false

/-- What is unmade is a choice at a place up to the last. -/
theorem mem_unmade : (n, i) ∈ s.unmade last ↔ (n < s.choices ∧ s.first ≤ i ∧ i ≤ last) ∧ s.contains n i = false := by
  rw [unmade, Finset.mem_filter, Finset.mem_product, Finset.mem_range, Finset.mem_Icc]

/-- At the start there are at most as many as choices and places allow. -/
theorem card_unmade_empty_le (choices first last : Nat) :
    ((empty choices first).unmade last).card ≤ choices * (last + 1 - first) := by
  refine Nat.le_trans (Finset.card_filter_le _ _) ?_
  rw [Finset.card_product, Finset.card_range, Nat.card_Icc]
  exact Nat.le_refl _

/-- A choice that is made leaves one less. -/
theorem card_unmade_insert_lt (h : (n, i) ∈ s.unmade last) : ((s.insert n i).unmade last).card < (s.unmade last).card := by
  obtain ⟨⟨hn, hi, -⟩, -⟩ := mem_unmade.mp h
  refine Finset.card_lt_card ⟨fun ⟨m, j⟩ hmem => ?_, fun hsub => ?_⟩
  · obtain ⟨⟨hm, hj, hlast⟩, hcontains⟩ := mem_unmade.mp hmem
    rw [contains_insert, Bool.or_eq_false_iff] at hcontains
    exact mem_unmade.mpr ⟨⟨hm, hj, hlast⟩, hcontains.2⟩
  · obtain ⟨-, hcontains⟩ := mem_unmade.mp (hsub h)
    rw [contains_insert, beq_self_eq_true, Bool.true_or] at hcontains
    cases hcontains

end Phrasebook.Regex.Seen
