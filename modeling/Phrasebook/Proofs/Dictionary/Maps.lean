import Mathlib.Data.List.Nodup
import Mathlib.Data.List.Perm.Basic
import Phrasebook.OrderedMap

/-!
# Maps under selection and reordering

A map is what its keys hold and the order in which they stand. Reordering keeps what every key holds
(`get?_eq_of_perm`), and a map whose pairs are those of another in their order is that map (`ext_entries`).
-/

namespace Phrasebook.OrderedMap

variable {α : Type} {m m' : OrderedMap α} {key k : String} {value : α}

/-- A map is determined by its pairs. -/
theorem ext_entries (h : m.entries = m'.entries) : m = m' := by
  cases m
  cases m'
  cases h
  rfl

/-- What a key holds does not depend on the order of the pairs. -/
theorem get?_eq_of_perm (h : m.entries.Perm m'.entries) (key : String) : m.get? key = m'.get? key := by
  apply Option.ext
  intro value
  rw [get?_eq_some_iff, get?_eq_some_iff]
  exact h.mem_iff

theorem nodup_entries (m : OrderedMap α) : m.entries.Nodup := .of_map _ m.nodup_keys

/-- Maps in which every key holds the same have the same pairs. -/
theorem entries_perm_of_get? (h : ∀ key, m.get? key = m'.get? key) : m.entries.Perm m'.entries := by
  rw [List.perm_ext_iff_of_nodup m.nodup_entries m'.nodup_entries]
  rintro ⟨key, value⟩
  rw [← get?_eq_some_iff, ← get?_eq_some_iff, h]

theorem get?_eq_none_iff : m.get? key = none ↔ key ∉ m.keys := by
  rw [mem_keys_iff, Option.eq_none_iff_forall_ne_some, not_exists]

/-- What is found for a key is in the list with it. -/
theorem mem_of_find {entries : List (String × α)} (h : find key entries = some value) : (key, value) ∈ entries := by
  induction entries with
  | nil => cases h
  | cons e rest ih =>
    obtain ⟨k', v'⟩ := e
    by_cases hk : k' = key
    · rw [find, if_pos hk] at h
      rw [hk, Option.some.inj h]
      exact List.mem_cons_self
    · rw [find, if_neg hk] at h
      exact List.mem_cons_of_mem _ (ih h)

/-- A key that is found is one of the keys. -/
theorem mem_keys_of_find {entries : List (String × α)} (h : find key entries = some value) :
    key ∈ entries.map Prod.fst := List.mem_map.mpr ⟨_, mem_of_find h, rfl⟩

/-- Selecting pairs leaves to a key what it held if that is selected. -/
theorem get?_filter (p : String → α → Bool) (m : OrderedMap α) (key : String) :
    (m.filter p).get? key = (m.get? key).filter (p key) := by
  apply Option.ext
  intro value
  rw [get?_eq_some_iff, Option.filter_eq_some_iff, get?_eq_some_iff]
  exact List.mem_filter

/-- A selection by keys is one of the keys. -/
theorem keys_filter (p : String → Bool) (m : OrderedMap α) : (m.filter fun key _ => p key).keys = m.keys.filter p := by
  rw [keys, keys, List.filter_map]
  rfl

theorem get?_sorted (m : OrderedMap α) (key : String) : m.sorted.get? key = m.get? key :=
  get?_eq_of_perm (List.mergeSort_perm ..) key

/-! ## Taking a pair out -/

/-- Without the pair of a key the others remain, in some order. -/
theorem swapOut_perm {entries : List (String × α)} (h : (entries.map Prod.fst).Nodup) :
    (swapOut key entries).Perm (entries.filter (·.1 ≠ key)) := by
  induction entries with
  | nil => exact .nil
  | cons e rest ih =>
    obtain ⟨k', v'⟩ := e
    simp only [List.map_cons, List.nodup_cons] at h
    by_cases hk : k' = key
    · subst hk
      have hrest : rest.filter (·.1 ≠ k') = rest := by
        rw [List.filter_eq_self]
        intro pair hpair
        simp only [ne_eq, decide_not, Bool.not_eq_true', decide_eq_false_iff_not]
        rintro rfl
        exact h.1 (List.mem_map_of_mem hpair)
      rw [swapOut, if_pos rfl, List.filter_cons_of_neg (by simp), hrest]
      exact lastFirst_perm rest
    · rw [swapOut, if_neg hk, List.filter_cons_of_pos (by simpa using hk)]
      exact (ih h.2).cons _

/-- Pairs in front of a key keep their places when its pair is taken out. -/
theorem swapOut_append {front back : List (String × α)} (h : key ∉ front.map Prod.fst) :
    swapOut key (front ++ back) = front ++ swapOut key back := by
  induction front with
  | nil => rfl
  | cons e front ih =>
    obtain ⟨k', v'⟩ := e
    simp only [List.map_cons, List.mem_cons, not_or] at h
    rw [List.cons_append, swapOut, if_neg (Ne.symm h.1), ih h.2, List.cons_append]

theorem entries_swapErase_perm (m : OrderedMap α) (key : String) :
    (m.swapErase key).entries.Perm (m.entries.filter (·.1 ≠ key)) := swapOut_perm m.nodup_keys

/-- A key that is taken out holds nothing, and every other what it held. -/
theorem get?_swapErase (m : OrderedMap α) (key k : String) :
    (m.swapErase key).get? k = if k = key then none else m.get? k := by
  have hperm : (m.swapErase key).entries.Perm (m.filter fun k _ => k ≠ key).entries :=
    entries_swapErase_perm m key
  rw [get?_eq_of_perm hperm, get?_filter]
  by_cases h : k = key
  · cases m.get? k <;> simp [h]
  · cases m.get? k <;> simp [h]

/-! ## Putting pairs in -/

/-- A new key is put behind all others. -/
theorem put_of_not_mem {entries : List (String × α)} (h : key ∉ entries.map Prod.fst) :
    put key value entries = entries ++ [(key, value)] := by
  induction entries with
  | nil => rfl
  | cons e rest ih =>
    obtain ⟨k', v'⟩ := e
    simp only [List.map_cons, List.mem_cons, not_or] at h
    rw [put, if_neg (Ne.symm h.1), ih h.2, List.cons_append]

/-- A key that is put keeps its place, or comes behind all others. -/
theorem keys_put (key : String) (value : α) (entries : List (String × α)) :
    (put key value entries).map Prod.fst =
      if key ∈ entries.map Prod.fst then entries.map Prod.fst else entries.map Prod.fst ++ [key] := by
  induction entries with
  | nil => rfl
  | cons e rest ih =>
    obtain ⟨k', v'⟩ := e
    by_cases hk : k' = key
    · simp [put, hk]
    · simp only [put, hk, if_false, List.map_cons, ih, List.mem_cons, Ne.symm hk, false_or]
      split <;> rfl

theorem keys_insert (m : OrderedMap α) (key : String) (value : α) :
    (m.insert key value).keys = if key ∈ m.keys then m.keys else m.keys ++ [key] := keys_put key value m.entries

/-- What a key holds already can be put again. -/
theorem put_of_find {entries : List (String × α)} (h : find key entries = some value) :
    put key value entries = entries := by
  induction entries with
  | nil => cases h
  | cons e rest ih =>
    obtain ⟨k', v'⟩ := e
    by_cases hk : k' = key
    · rw [find, if_pos hk, Option.some.injEq] at h
      rw [put, if_pos hk, hk, h]
    · rw [find, if_neg hk] at h
      rw [put, if_neg hk, ih h]

/-- Pairs whose keys are new and different are put one behind the other. -/
theorem entries_foldl_insert {pairs : List (String × α)} (m : OrderedMap α)
    (h : ((m.entries ++ pairs).map Prod.fst).Nodup) :
    (pairs.foldl (fun m (k, v) => m.insert k v) m).entries = m.entries ++ pairs := by
  induction pairs generalizing m with
  | nil => exact (List.append_nil _).symm
  | cons pair rest ih =>
    obtain ⟨k, v⟩ := pair
    have hnew : k ∉ m.entries.map Prod.fst := by
      rw [List.map_append, List.map_cons, List.nodup_append] at h
      exact fun hk => h.2.2 k hk k List.mem_cons_self rfl
    have hinsert : (m.insert k v).entries = m.entries ++ [(k, v)] := put_of_not_mem hnew
    have happend : m.entries ++ [(k, v)] ++ rest = m.entries ++ (k, v) :: rest := by simp
    rw [List.foldl_cons, ih, hinsert, happend]
    rwa [hinsert, happend]

/-- Nothing but the pairs comes into a map of pairs. -/
theorem mem_of_mem_ofList {pairs : List (String × α)} {pair : String × α} (h : pair ∈ (ofList pairs).entries) :
    pair ∈ pairs := by
  rw [← get?_eq_some_iff, get?_ofList, Option.map_eq_some_iff] at h
  obtain ⟨last, hlast, hvalue⟩ := h
  obtain ⟨hmem, hkey⟩ := List.mem_filter.mp (List.mem_of_getLast? hlast)
  obtain rfl : last = pair := Prod.ext (by simpa using hkey) hvalue
  exact hmem

/-- The pairs of a map make this map. -/
theorem ofList_entries (m : OrderedMap α) : ofList m.entries = m :=
  ext_entries (entries_foldl_insert empty m.nodup_keys)

end Phrasebook.OrderedMap
