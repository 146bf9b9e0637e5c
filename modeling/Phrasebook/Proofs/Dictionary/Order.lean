import Mathlib.Data.List.Nodup
import Phrasebook.Dictionary.Order
import Phrasebook.Proofs.Dictionary.Maps

/-!
# Dictionaries in order

Putting a dictionary in one of its orders changes what no id holds (`get?_order`). A dictionary ordered by its sources has
the ids that were found in front and the others behind them (`entries_bySource`), in the order that is left when the former
are taken out one by one, each leaving its place to the last. It is the order they had, if at most one of them stands behind an
id that is taken out (`entries_bySource_of_behind`).
-/

namespace Phrasebook.Dictionary

open OrderedMap

variable {d taken rest : Dictionary} {id key : String} {ids : List String} {value : Json} {front back : List (String × Json)}

/-! ## Moving ids -/

/-- Moves ids, one after the other, from the second dictionary to the end of the first. -/
def takeAll (state : Dictionary × Dictionary) (ids : List String) : Dictionary × Dictionary :=
  ids.foldl (fun (taken, rest) id => take taken rest id) state

theorem takeAll_cons (taken rest : Dictionary) (id : String) (ids : List String) :
    takeAll (taken, rest) (id :: ids) = takeAll (take taken rest id) ids := rfl

theorem bySource_eq (d : Dictionary) (ids : List String) :
    d.bySource ids =
      (takeAll (.empty, d) ids).2.entries.foldl (fun m (id, value) => m.insert id value) (takeAll (.empty, d) ids).1 :=
  rfl

/-- No id is held by both. -/
def Apart (taken rest : Dictionary) : Prop := ∀ key, taken.get? key = none ∨ rest.get? key = none

/-- Moving an id keeps two dictionaries apart and what they hold together. -/
theorem apart_take (h : Apart taken rest) (id : String) :
    Apart (take taken rest id).1 (take taken rest id).2 ∧
      ∀ key, ((take taken rest id).1.get? key).or ((take taken rest id).2.get? key) =
        (taken.get? key).or (rest.get? key) := by
  unfold take
  cases hid : rest.get? id with
  | none => exact ⟨h, fun _ => rfl⟩
  | some value =>
    simp only [Apart, get?_insert, get?_swapErase]
    constructor
    · intro key
      by_cases hkey : key = id
      · exact .inr (if_pos hkey)
      · simp only [if_neg hkey]
        exact h key
    · intro key
      by_cases hkey : key = id
      · subst hkey
        have htaken : taken.get? key = none := (h key).resolve_right (by simp [hid])
        simp [htaken, hid]
      · simp only [if_neg hkey]

theorem apart_takeAll (h : Apart taken rest) (ids : List String) :
    Apart (takeAll (taken, rest) ids).1 (takeAll (taken, rest) ids).2 ∧
      ∀ key, ((takeAll (taken, rest) ids).1.get? key).or ((takeAll (taken, rest) ids).2.get? key) =
        (taken.get? key).or (rest.get? key) := by
  induction ids generalizing taken rest with
  | nil => exact ⟨h, fun _ => rfl⟩
  | cons id ids ih =>
    obtain ⟨hapart, hheld⟩ := apart_take h id
    obtain ⟨hapart', hheld'⟩ := ih hapart
    exact ⟨hapart', fun key => (hheld' key).trans (hheld key)⟩

/-- Inserting the pairs of a map binds its keys to what they hold there. -/
theorem get?_insertAll (m m' : Dictionary) (key : String) :
    (m'.entries.foldl (fun m (id, value) => m.insert id value) m).get? key = (m'.get? key).or (m.get? key) := by
  rw [get?_foldl_insert]
  congr 1
  rw [← get?_ofList, ofList_entries]

/-- Ordering by source changes what no id holds. -/
theorem get?_bySource (d : Dictionary) (ids : List String) (key : String) : (d.bySource ids).get? key = d.get? key := by
  have hempty : Apart .empty d := fun _ => .inl rfl
  obtain ⟨hapart, hheld⟩ := apart_takeAll hempty ids
  have hkey := hheld key
  rw [get?_empty, Option.none_or] at hkey
  rw [bySource_eq, get?_insertAll, ← hkey]
  rcases hapart key with h | h
  · rw [h, Option.none_or, Option.or_none]
  · rw [h, Option.none_or, Option.or_none]

/-- The ids of a list that a dictionary holds, with what they hold. -/
def heldOf (d : Dictionary) (ids : List String) : List (String × Json) :=
  ids.filterMap fun id => (d.get? id).map (Prod.mk id)

/-- Moving an id that the first dictionary does not have puts it at the end there. -/
theorem entries_take (h : Apart taken rest) (id : String) :
    (take taken rest id).1.entries = taken.entries ++ heldOf rest [id] ∧
      (take taken rest id).2.entries.Perm (rest.entries.filter (·.1 ≠ id)) := by
  unfold take heldOf
  cases hid : rest.get? id with
  | none =>
    have hkeep : rest.entries.filter (·.1 ≠ id) = rest.entries := by
      rw [List.filter_eq_self]
      rintro ⟨k, v⟩ hmem
      have hne : k ≠ id := by
        rintro rfl
        exact get?_eq_none_iff.mp hid (List.mem_map_of_mem hmem)
      simpa using hne
    rw [List.filterMap_cons_none (by rw [hid]; rfl), hkeep]
    exact ⟨(List.append_nil _).symm, .refl _⟩
  | some value =>
    have hnew : id ∉ taken.keys := get?_eq_none_iff.mp ((h id).resolve_right (by simp [hid]))
    rw [List.filterMap_cons_some (by rw [hid]; rfl)]
    exact ⟨put_of_not_mem hnew, entries_swapErase_perm rest id⟩

/-- Moving different ids puts those that are held at the end of the first dictionary, in their order. -/
theorem entries_takeAll (h : Apart taken rest) (hids : ids.Nodup) :
    (takeAll (taken, rest) ids).1.entries = taken.entries ++ heldOf rest ids ∧
      (takeAll (taken, rest) ids).2.entries.Perm (rest.entries.filter (·.1 ∉ ids)) := by
  induction ids generalizing taken rest with
  | nil => exact ⟨(List.append_nil _).symm, .of_eq (List.filter_eq_self.mpr (by simp)).symm⟩
  | cons id ids ih =>
    obtain ⟨hid, hids⟩ := List.nodup_cons.mp hids
    obtain ⟨htaken, hrest⟩ := entries_take h id
    obtain ⟨htaken', hrest'⟩ := ih (apart_take h id).1 hids
    have hheld : heldOf (take taken rest id).2 ids = heldOf rest ids := by
      refine List.filterMap_congr fun k hk => ?_
      have hne : k ≠ id := by
        rintro rfl
        exact hid hk
      unfold take
      cases rest.get? id with
      | none => rfl
      | some value => rw [get?_swapErase, if_neg hne]
    rw [takeAll_cons]
    constructor
    · rw [htaken', htaken, hheld, List.append_assoc]
      unfold heldOf
      rw [← List.filterMap_append, List.singleton_append]
    · refine hrest'.trans ((hrest.filter _).trans (.of_eq ?_))
      rw [List.filter_filter]
      refine List.filter_congr fun pair _ => ?_
      simp [Bool.and_comm]

/-- A dictionary ordered by its sources has the ids that were found in front, in their order, and behind them what is left when
these have been moved. -/
theorem entries_bySource_eq (d : Dictionary) (hids : ids.Nodup) :
    (d.bySource ids).entries = heldOf d ids ++ (takeAll (.empty, d) ids).2.entries := by
  have hempty : Apart .empty d := fun _ => .inl rfl
  obtain ⟨hapart, -⟩ := apart_takeAll hempty ids
  obtain ⟨htaken, -⟩ := entries_takeAll hempty hids
  rw [bySource_eq, entries_foldl_insert, htaken]
  · rfl
  · rw [List.map_append, List.nodup_append]
    refine ⟨nodup_keys _, nodup_keys _, ?_⟩
    rintro key hkey _ hkey' rfl
    rcases hapart key with h | h
    · exact get?_eq_none_iff.mp h hkey
    · exact get?_eq_none_iff.mp h hkey'

/-- The others are those that were not found, in some order. -/
theorem entries_bySource (d : Dictionary) (hids : ids.Nodup) :
    ∃ others, (d.bySource ids).entries = heldOf d ids ++ others ∧ others.Perm (d.entries.filter (·.1 ∉ ids)) :=
  ⟨_, entries_bySource_eq d hids, (entries_takeAll (fun _ => .inl rfl) hids).2⟩

/-! ## Ids that stay in their order -/

/-- The ids that were not found, but stand behind one that was. -/
def behindFound (d : Dictionary) (ids : List String) : List String :=
  (d.keys.dropWhile (· ∉ ids)).filter (· ∉ ids)

/-- Pairs in front of all ids that are moved stay where they are. -/
theorem exists_entries_takeAll (hfront : ∀ pair ∈ front, pair.1 ∉ ids) (hrest : rest.entries = front ++ back) :
    ∃ back', (takeAll (taken, rest) ids).2.entries = front ++ back' := by
  induction ids generalizing taken rest back with
  | nil => exact ⟨back, hrest⟩
  | cons id ids ih =>
    have hfront' : ∀ pair ∈ front, pair.1 ∉ ids := fun pair hpair hmem => hfront pair hpair (List.mem_cons_of_mem _ hmem)
    have hid : id ∉ front.map Prod.fst := by
      intro hmem
      obtain ⟨pair, hpair, rfl⟩ := List.mem_map.mp hmem
      exact hfront pair hpair List.mem_cons_self
    have hstep : ∃ back', (take taken rest id).2.entries = front ++ back' := by
      unfold take
      cases rest.get? id with
      | none => exact ⟨back, hrest⟩
      | some value =>
        refine ⟨swapOut id back, ?_⟩
        rw [← swapOut_append hid, ← hrest]
        rfl
    obtain ⟨back', hback'⟩ := hstep
    exact ih hfront' hback'

/-- What has at most one member has one order. -/
theorem eq_of_perm_of_length_le_one {α : Type} {l l' : List α} (h : l.Perm l') (hlength : l'.length ≤ 1) : l = l' := by
  cases l' with
  | nil => exact h.eq_nil
  | cons a l' =>
    obtain rfl : l' = [] := List.eq_nil_of_length_eq_zero (Nat.le_zero.mp (Nat.le_of_succ_le_succ hlength))
    exact h.eq_singleton

/-- The others keep the order they had, if at most one of them stands behind an id that was found. -/
theorem entries_bySource_of_behind (d : Dictionary) (hids : ids.Nodup) (hbehind : (behindFound d ids).length ≤ 1) :
    (d.bySource ids).entries = heldOf d ids ++ d.entries.filter (·.1 ∉ ids) := by
  have hsplit : d.entries = d.entries.takeWhile (·.1 ∉ ids) ++ d.entries.dropWhile (·.1 ∉ ids) :=
    List.takeWhile_append_dropWhile.symm
  have hfront : ∀ pair ∈ d.entries.takeWhile (·.1 ∉ ids), pair.1 ∉ ids := fun pair hpair =>
    of_decide_eq_true (List.all_eq_true.mp List.all_takeWhile pair hpair)
  have hkeep : (d.entries.takeWhile (·.1 ∉ ids)).filter (·.1 ∉ ids) = d.entries.takeWhile (·.1 ∉ ids) :=
    List.filter_eq_self.mpr fun pair hpair => decide_eq_true (hfront pair hpair)
  have hlength : ((d.entries.dropWhile (·.1 ∉ ids)).filter (·.1 ∉ ids)).length ≤ 1 := by
    simpa [behindFound, keys, List.dropWhile_map, List.filter_map, Function.comp_def] using hbehind
  have hleft : ∃ back, (takeAll (.empty, d) ids).2.entries = d.entries.takeWhile (·.1 ∉ ids) ++ back :=
    exists_entries_takeAll hfront hsplit
  obtain ⟨back, hback⟩ := hleft
  have hperm : ((takeAll (.empty, d) ids).2.entries).Perm (d.entries.filter (·.1 ∉ ids)) :=
    (entries_takeAll (fun _ => .inl rfl) hids).2
  rw [hback] at hperm
  conv at hperm => rhs; rw [hsplit, List.filter_append, hkeep]
  have hlast := eq_of_perm_of_length_le_one ((List.perm_append_left_iff _).mp hperm) hlength
  rw [entries_bySource_eq d hids, hback, hlast]
  conv => rhs; rw [hsplit, List.filter_append, hkeep]

/-! ## Ascending ids -/

/-- The ids of a sorted dictionary ascend strictly, since none occurs twice. -/
theorem pairwise_keys_sorted (d : Dictionary) : d.sorted.keys.Pairwise (· < ·) := by
  have hle : d.sorted.keys.Pairwise (· ≤ ·) := by
    rw [keys, List.pairwise_map]
    refine (List.pairwise_mergeSort ?_ ?_ d.entries).imp ?_
    · intro a b c hab hbc
      simp only [decide_eq_true_eq] at hab hbc ⊢
      exact String.le_trans hab hbc
    · intro a b
      simpa using String.le_total a.1 b.1
    · intro a b hab
      simpa using hab
  refine hle.imp₂ (fun a b hab hne => ?_) d.sorted.nodup_keys
  apply String.not_le.mp
  intro hba
  exact hne (String.le_antisymm hab hba)

/-- What an id holds does not depend on the order. -/
theorem get?_order (d : Dictionary) (ids : List String) (order : KeyOrder) (key : String) :
    (d.order ids order).get? key = d.get? key := by
  cases order with
  | keys => exact get?_sorted d key
  | source => exact get?_bySource d ids key
  | none => rfl

end Phrasebook.Dictionary
