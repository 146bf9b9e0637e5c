import Mathlib.Data.Set.Card
import Phrasebook.Proofs.Dictionary.KeySequence

/-!
# What a merge counts

Merging an id adds it, fills it or leaves everything as it is (`mergeId_cases`), and counts what it does. So the counts of a
merge are those of a comparison of the two dictionaries (`merge_counts`): how many ids are new, how many are gone, and how many
hold something else.
-/

namespace Phrasebook.Dictionary

open OrderedMap

variable {d before existing : Dictionary} {outcome : MergeOutcome} {ids : List String} {id key : String} {value new : Json}
  {defaultMessages : OrderedMap String} {fallback : Option Dictionary} {options : MergeOptions}

/-! ## Sets of ids -/

/-- The ids of a dictionary. -/
def keySet (d : Dictionary) : Set String := {id | id ∈ d.keys}

/-- The ids of two dictionaries that hold something else in the second one. -/
def changedSet (before after : Dictionary) : Set String :=
  {id | id ∈ keySet before ∧ id ∈ keySet after ∧ after.get? id ≠ before.get? id}

/-- A dictionary has as many keys as entries. -/
theorem encard_keySet (d : Dictionary) : (keySet d).encard = d.size := by
  have hkeys : keySet d = (d.keys.toFinset : Set String) := by
    ext id
    simp [keySet]
  have hnodup : d.keys.Nodup := d.nodup_keys
  rw [hkeys, Set.encard_coe_eq_coe_finsetCard, List.toFinset_card_of_nodup hnodup, keys, List.length_map, size]

/-- Inserting adds the key, if it is not there. -/
theorem keySet_insert (d : Dictionary) (key : String) (new : Json) : keySet (d.insert key new) = insert key (keySet d) := by
  ext id
  exact mem_keys_insert

/-- A value for an id that was not there before changes nothing of what was there. -/
theorem changedSet_insert_of_new (h : key ∉ keySet before) : changedSet before (d.insert key new) = changedSet before d := by
  ext id
  by_cases hid : id = key
  · subst hid
    simp [changedSet, h]
  · simp [changedSet, keySet_insert, get?_insert, hid]

/-- Another value for an id that was there is a change of this id. -/
theorem changedSet_insert (h : before.get? key = some value) (hne : value ≠ new) :
    changedSet before (d.insert key new) = insert key (changedSet before d) := by
  have hkey : key ∈ keySet before := mem_keys_iff.mpr ⟨value, h⟩
  ext id
  by_cases hid : id = key
  · subst hid
    simp [changedSet, keySet_insert, get?_insert, hkey, h, hne.symm]
  · simp [changedSet, keySet_insert, get?_insert, hid]

/-- The ids that are new and those that are gone make up for the difference in size. -/
theorem size_add_encard (before after : Dictionary) : (after.size + (keySet before \ keySet after).encard : ℕ∞) =
    before.size + (keySet after \ keySet before).encard := by
  rw [← encard_keySet, ← encard_keySet, ← Set.encard_sdiff_add_encard_inter (keySet after) (keySet before),
    ← Set.encard_sdiff_add_encard_inter (keySet before) (keySet after), Set.inter_comm (keySet after)]
  ac_rfl

/-- Two dictionaries have the same ids and values if no id is new, none holds something else and none is gone. -/
theorem forall_get?_eq_iff (before after : Dictionary) : (∀ id, after.get? id = before.get? id) ↔
    keySet after \ keySet before = ∅ ∧ changedSet before after = ∅ ∧ keySet before \ keySet after = ∅ := by
  constructor
  · intro h
    have hkeys : keySet after = keySet before := by
      ext id
      change id ∈ after.keys ↔ id ∈ before.keys
      rw [mem_keys_iff, mem_keys_iff, h id]
    have hchanged : changedSet before after = ∅ := Set.eq_empty_of_forall_notMem fun id hid => hid.2.2 (h id)
    exact ⟨by rw [hkeys, Set.sdiff_self], hchanged, by rw [hkeys, Set.sdiff_self]⟩
  · rintro ⟨hnew, hchanged, hgone⟩ id
    by_cases hid : id ∈ keySet before
    · have hid' : id ∈ keySet after := Set.sdiff_eq_empty.mp hgone hid
      by_contra hne
      exact Set.notMem_empty id (hchanged ▸ ⟨hid, hid', hne⟩)
    · have hid' : id ∉ keySet after := fun hmem => hid (Set.sdiff_eq_empty.mp hnew hmem)
      rw [get?_eq_none_iff.mpr hid, get?_eq_none_iff.mpr hid']

/-! ## One id -/

/-- What is counted as added and as filled is what a comparison with the dictionary before gives. -/
structure Accounts (before : Dictionary) (outcome : MergeOutcome) : Prop where
  added : outcome.added = (keySet outcome.dictionary \ keySet before).encard
  filled : outcome.filled = (changedSet before outcome.dictionary).encard

/-- Merging an id that is as it was before keeps the counts right. -/
theorem Accounts.mergeId (h : Accounts before outcome) (hid : outcome.dictionary.get? id = before.get? id)
    (candidate : Option String) : Accounts before (mergeId outcome id candidate) := by
  obtain ⟨-, heq⟩ | ⟨text, -, hnone, heq⟩ | ⟨text, value, -, hvalue, -, hne, heq⟩ := mergeId_cases outcome id candidate
  · rwa [heq]
  · have hnew : id ∉ keySet before := get?_eq_none_iff.mp (hid ▸ hnone)
    have hfresh : id ∉ keySet outcome.dictionary \ keySet before := fun hmem => get?_eq_none_iff.mp hnone hmem.1
    rw [heq]
    constructor
    · simp only [keySet_insert, Set.insert_sdiff_of_notMem _ hnew, Set.encard_insert_of_notMem hfresh, ← h.added,
        Nat.cast_add, Nat.cast_one]
    · simp only [changedSet_insert_of_new hnew, ← h.filled]
  · have hold : id ∈ keySet before := mem_keys_iff.mpr ⟨value, hid ▸ hvalue⟩
    have hfresh : id ∉ changedSet before outcome.dictionary := fun hmem => hmem.2.2 hid
    rw [heq]
    constructor
    · simp only [keySet_insert, Set.insert_sdiff_of_mem _ hold, ← h.added]
    · simp only [changedSet_insert (hid ▸ hvalue) hne, Set.encard_insert_of_notMem hfresh, ← h.filled, Nat.cast_add,
        Nat.cast_one]

/-! ## Runs -/

/-- The counts stay right while ids are merged one after the other. An id that comes again is settled and is not counted
again. -/
theorem accounts_mergeIds (candidate? : String → Option String) (d : Dictionary) (removed : Nat) (ids : List String) :
    Accounts d (mergeIds candidate? ⟨d, 0, 0, removed⟩ ids) := by
  induction ids using List.reverseRecOn with
  | nil => exact ⟨by simp [mergeIds], by simp [mergeIds, changedSet]⟩
  | append_singleton ids id ih =>
    have hlast : mergeIds candidate? ⟨d, 0, 0, removed⟩ (ids ++ [id]) =
        mergeId (mergeIds candidate? ⟨d, 0, 0, removed⟩ ids) id (candidate? id) := List.foldl_concat ..
    have hheld := get?_mergeIds candidate? ⟨d, 0, 0, removed⟩ ids id
    rw [hlast]
    by_cases hmem : id ∈ ids
    · rw [if_pos hmem] at hheld
      rwa [mergeId_eq_self (by rw [hheld, settled_settled])]
    · rw [if_neg hmem] at hheld
      exact ih.mergeId hheld _

/-! ## Merged dictionaries -/

/-- What is kept is what was there and still is. -/
theorem mem_keySet_kept : id ∈ keySet (kept existing ids options) ↔
    id ∈ keySet existing ∧ id ∈ keySet (existing.merge ids defaultMessages fallback options).dictionary := by
  change id ∈ (kept existing ids options).keys ↔ _
  rw [keys_kept_eq, List.mem_filter, decide_eq_true_iff]
  rfl

/-- As a set of ids. -/
theorem keySet_kept : keySet (kept existing ids options) =
    keySet existing ∩ keySet (existing.merge ids defaultMessages fallback options).dictionary := by
  ext id
  exact mem_keySet_kept

/-- Putting the ids in order does not change which there are. -/
theorem keySet_mergedIds : keySet (mergedIds existing ids defaultMessages fallback options) =
    keySet (existing.merge ids defaultMessages fallback options).dictionary := by
  ext id
  rw [merge_eq_order]
  exact (mem_keys_order _ ids options.order id).symm

/-- What is kept holds what it held. -/
theorem get?_kept_of_mem (hid : id ∈ keySet (kept existing ids options)) :
    (kept existing ids options).get? id = existing.get? id := by
  obtain ⟨value, hvalue⟩ := mem_keys_iff.mp hid
  rw [get?_kept] at hvalue ⊢
  split at hvalue
  · next hkept => rw [if_pos hkept]
  · cases hvalue

/-- The ids that are kept are kept as they were, so that nothing else is changed than what was changed from then on. -/
theorem changedSet_kept : changedSet (kept existing ids options) (mergedIds existing ids defaultMessages fallback options) =
    changedSet existing (existing.merge ids defaultMessages fallback options).dictionary := by
  ext id
  simp only [changedSet, keySet_mergedIds, merge_eq_order, get?_order]
  constructor
  · rintro ⟨hkept, hmerged, hne⟩
    have hboth : id ∈ keySet existing ∧ id ∈ keySet (existing.merge ids defaultMessages fallback options).dictionary :=
      mem_keySet_kept.mp hkept
    exact ⟨hboth.1, hmerged, get?_kept_of_mem hkept ▸ hne⟩
  · rintro ⟨hold, hmerged, hne⟩
    have hkept := mem_keySet_kept.mpr ⟨hold, hmerged⟩
    exact ⟨hkept, hmerged, (get?_kept_of_mem hkept).symm ▸ hne⟩

/-- Merging ids removes none: that was counted before. -/
theorem removed_mergeIds (candidate? : String → Option String) (outcome : MergeOutcome) (ids : List String) :
    (mergeIds candidate? outcome ids).removed = outcome.removed := by
  induction ids generalizing outcome with
  | nil => rfl
  | cons id ids ih =>
    rw [mergeIds, List.foldl_cons, ← mergeIds, ih]
    obtain ⟨-, heq⟩ | ⟨_, -, -, heq⟩ | ⟨_, _, -, -, -, -, heq⟩ := mergeId_cases outcome id (candidate? id) <;> rw [heq]

section

variable (existing ids defaultMessages fallback options)

/-- What is counted as added are the ids that are new. -/
theorem added_merge : ((existing.merge ids defaultMessages fallback options).added : ℕ∞) =
    (keySet (existing.merge ids defaultMessages fallback options).dictionary \ keySet existing).encard := by
  rw [← Set.sdiff_inter_self_eq_sdiff, ← keySet_kept, ← keySet_mergedIds]
  exact (accounts_mergeIds _ (kept existing ids options) _ ids).added

/-- What is counted as filled are the ids that hold something else than before. -/
theorem filled_merge : ((existing.merge ids defaultMessages fallback options).filled : ℕ∞) =
    (changedSet existing (existing.merge ids defaultMessages fallback options).dictionary).encard := by
  rw [← changedSet_kept]
  exact (accounts_mergeIds _ (kept existing ids options) _ ids).filled

/-- What is counted as removed are the ids that are gone. -/
theorem removed_merge : ((existing.merge ids defaultMessages fallback options).removed : ℕ∞) =
    (keySet existing \ keySet (existing.merge ids defaultMessages fallback options).dictionary).encard := by
  have hsize := Set.encard_sdiff_add_encard_inter (keySet existing)
    (keySet (existing.merge ids defaultMessages fallback options).dictionary)
  rw [← keySet_kept, encard_keySet, encard_keySet] at hsize
  have hremoved : (existing.merge ids defaultMessages fallback options).removed =
      existing.size - (kept existing ids options).size := removed_mergeIds ..
  rw [hremoved, ENat.natCast_sub, ← hsize,
    (ENat.addLECancellable_of_ne_top (ENat.natCast_ne_top _)).add_tsub_cancel_right]

end

/-- What a merge counts: the ids that are new, those that hold something else, and those that are gone. So the counts tell its
size, and they are all zero exactly if the ids and the values are those of before. -/
theorem merge_counts (existing : Dictionary) (ids : List String) (defaultMessages : OrderedMap String)
    (fallback : Option Dictionary) (options : MergeOptions) :
    let outcome := existing.merge ids defaultMessages fallback options
    (outcome.added = (keySet outcome.dictionary \ keySet existing).encard ∧
        outcome.filled = (changedSet existing outcome.dictionary).encard ∧
        outcome.removed = (keySet existing \ keySet outcome.dictionary).encard) ∧
      outcome.dictionary.size + outcome.removed = existing.size + outcome.added ∧
      (outcome.added = 0 ∧ outcome.filled = 0 ∧ outcome.removed = 0 ↔
        ∀ id, outcome.dictionary.get? id = existing.get? id) := by
  intro outcome
  have hadded := added_merge existing ids defaultMessages fallback options
  have hfilled := filled_merge existing ids defaultMessages fallback options
  have hremoved := removed_merge existing ids defaultMessages fallback options
  refine ⟨⟨hadded, hfilled, hremoved⟩, ?size, ?zero⟩
  case size =>
    have hsize := size_add_encard existing outcome.dictionary
    rw [← hadded, ← hremoved] at hsize
    exact_mod_cast hsize
  case zero =>
    rw [forall_get?_eq_iff, ← Set.encard_eq_zero, ← Set.encard_eq_zero, ← Set.encard_eq_zero, ← hadded, ← hfilled, ← hremoved]
    simp only [Nat.cast_eq_zero, outcome]

end Phrasebook.Dictionary
