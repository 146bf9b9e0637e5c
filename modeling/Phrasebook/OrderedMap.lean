/-!
# Maps that keep the order of their keys

Dictionaries, locales and the values of a message are maps from texts whose order is seen in every answer. A key keeps
the place where it was first inserted; a new value for it goes to that place. No key occurs twice, and this is part of
the type.
-/

namespace Phrasebook

/-- A map from texts whose keys stand in a fixed order. -/
structure OrderedMap (α : Type) where
  /-- The pairs in their order. -/
  entries : List (String × α)
  nodup_keys : (entries.map Prod.fst).Nodup

namespace OrderedMap

variable {α β : Type}

/-! ## Pairs in a list -/

/-- The pairs with `key` bound to `value`: in its place if the key is there, at the end otherwise. -/
def put (key : String) (value : α) : List (String × α) → List (String × α)
  | [] => [(key, value)]
  | (k, v) :: rest => if k = key then (key, value) :: rest else (k, v) :: put key value rest

/-- The value of the first pair with the key. -/
def find (key : String) : List (String × α) → Option α
  | [] => none
  | (k, v) :: rest => if k = key then some v else find key rest

theorem mem_keys_put {key k : String} {value : α} {entries : List (String × α)} :
    k ∈ (put key value entries).map Prod.fst ↔ k = key ∨ k ∈ entries.map Prod.fst := by
  induction entries with
  | nil => simp [put]
  | cons e rest ih =>
    obtain ⟨k', v'⟩ := e
    by_cases h : k' = key
    · simp [put, h]
    · simp only [put, h, if_false, List.map_cons, List.mem_cons, ih]
      grind

theorem nodup_put {key : String} {value : α} {entries : List (String × α)}
    (h : (entries.map Prod.fst).Nodup) : ((put key value entries).map Prod.fst).Nodup := by
  induction entries with
  | nil => simp [put]
  | cons e rest ih =>
    obtain ⟨k', v'⟩ := e
    simp only [List.map_cons, List.nodup_cons] at h
    by_cases hk : k' = key
    · subst hk
      simpa [put] using h
    · simp only [put, hk, if_false, List.map_cons, List.nodup_cons, mem_keys_put, false_or]
      exact ⟨h.1, ih h.2⟩

theorem find_put {key k : String} {value : α} {entries : List (String × α)} :
    find k (put key value entries) = if k = key then some value else find k entries := by
  induction entries with
  | nil => simp [put, find, eq_comm]
  | cons e rest ih =>
    obtain ⟨k', v'⟩ := e
    by_cases h : k' = key
    · subst h
      by_cases hk : k' = k
      · simp [put, find, hk]
      · simp [put, find, hk, Ne.symm hk]
    · by_cases hk : k' = k
      · subst hk
        simp [put, find, h]
      · simp [put, find, h, hk, ih]

theorem find_eq_some_iff {key : String} {value : α} {entries : List (String × α)}
    (h : (entries.map Prod.fst).Nodup) : find key entries = some value ↔ (key, value) ∈ entries := by
  induction entries with
  | nil => simp [find]
  | cons e rest ih =>
    obtain ⟨k', v'⟩ := e
    simp only [List.map_cons, List.nodup_cons] at h
    by_cases hk : k' = key
    · subst hk
      simp only [find, if_true, Option.some.injEq, List.mem_cons, Prod.mk.injEq, true_and]
      exact ⟨fun hv => Or.inl hv.symm, fun hm => hm.elim Eq.symm fun hm => absurd (List.mem_map_of_mem hm) h.1⟩
    · simp only [find, hk, if_false, ih h.2, List.mem_cons, Prod.mk.injEq]
      exact ⟨Or.inr, fun hm => hm.elim (fun he => absurd he.1.symm hk) id⟩

theorem find_map {key : String} {f : String → α → β} {entries : List (String × α)} :
    find key (entries.map fun (k, v) => (k, f k v)) = (find key entries).map (f key) := by
  induction entries with
  | nil => rfl
  | cons e rest ih =>
    obtain ⟨k', v'⟩ := e
    by_cases h : k' = key
    · subst h
      simp [find]
    · simp [find, h, ih]

/-- The last pair, and then the others. -/
def lastFirst (entries : List (String × α)) : List (String × α) :=
  match entries.getLast? with
  | none => []
  | some last => last :: entries.dropLast

/-- The pairs without the one of `key`, whose place the last pair takes. -/
def swapOut (key : String) : List (String × α) → List (String × α)
  | [] => []
  | (k, v) :: rest => if k = key then lastFirst rest else (k, v) :: swapOut key rest

theorem lastFirst_perm (entries : List (String × α)) : List.Perm (lastFirst entries) entries := by
  unfold lastFirst
  split
  · next h => rw [List.getLast?_eq_none_iff.mp h]
  · next last h =>
    obtain ⟨front, rfl⟩ := List.getLast?_eq_some_iff.mp h
    rw [List.dropLast_concat]
    exact (List.perm_append_singleton last front).symm

theorem swapOut_keys_subset {key : String} {entries : List (String × α)} :
    ∀ k ∈ (swapOut key entries).map Prod.fst, k ∈ entries.map Prod.fst := by
  induction entries with
  | nil => simp [swapOut]
  | cons e rest ih =>
    obtain ⟨k', v'⟩ := e
    intro k hk
    by_cases h : k' = key
    · simp only [swapOut, h, if_true] at hk
      exact List.mem_cons_of_mem _ (((lastFirst_perm rest).map Prod.fst).mem_iff.mp hk)
    · simp only [swapOut, h, if_false, List.map_cons, List.mem_cons] at hk ⊢
      exact hk.imp id (ih k)

theorem nodup_swapOut {key : String} {entries : List (String × α)} (h : (entries.map Prod.fst).Nodup) :
    ((swapOut key entries).map Prod.fst).Nodup := by
  induction entries with
  | nil => simp [swapOut]
  | cons e rest ih =>
    obtain ⟨k', v'⟩ := e
    simp only [List.map_cons, List.nodup_cons] at h
    by_cases hk : k' = key
    · simp only [swapOut, hk, if_true]
      exact ((lastFirst_perm rest).map Prod.fst).nodup_iff.mpr h.2
    · simp only [swapOut, hk, if_false, List.map_cons, List.nodup_cons]
      exact ⟨fun hm => h.1 (swapOut_keys_subset _ hm), ih h.2⟩

/-! ## Maps -/

/-- No pairs. -/
def empty : OrderedMap α := ⟨[], List.nodup_nil⟩

instance : Inhabited (OrderedMap α) := ⟨empty⟩

/-- The keys in their order. -/
def keys (m : OrderedMap α) : List String := m.entries.map Prod.fst

/-- The values in the order of their keys. -/
def values (m : OrderedMap α) : List α := m.entries.map Prod.snd

/-- How many keys the map has. -/
def size (m : OrderedMap α) : Nat := m.entries.length

/-- The value of a key. -/
def get? (m : OrderedMap α) (key : String) : Option α := find key m.entries

/-- Has the map the key? -/
def contains (m : OrderedMap α) (key : String) : Bool := (m.get? key).isSome

/-- The map with `key` bound to `value`. -/
def insert (m : OrderedMap α) (key : String) (value : α) : OrderedMap α :=
  ⟨put key value m.entries, nodup_put m.nodup_keys⟩

/-- The map with the value of `key` changed, starting from `initial` where there is none. -/
def upsert (m : OrderedMap α) (key : String) (initial : α) (change : α → α) : OrderedMap α :=
  m.insert key (change ((m.get? key).getD initial))

/-- The map of the pairs, inserted from the left. -/
def ofList (pairs : List (String × α)) : OrderedMap α := pairs.foldl (fun m (k, v) => m.insert k v) empty

/-- The map with every value changed in its place. -/
def mapValues (f : String → α → β) (m : OrderedMap α) : OrderedMap β where
  entries := m.entries.map fun (k, v) => (k, f k v)
  nodup_keys := by
    have h : (m.entries.map fun (k, v) => (k, f k v)).map Prod.fst = m.entries.map Prod.fst := by
      simp [Function.comp_def]
    rw [h]
    exact m.nodup_keys

/-- The pairs that satisfy `p`. -/
def filter (p : String → α → Bool) (m : OrderedMap α) : OrderedMap α where
  entries := m.entries.filter fun (k, v) => p k v
  nodup_keys := m.nodup_keys.sublist (List.filter_sublist.map Prod.fst)

/-- The pairs whose value has an image. -/
def filterMap (f : α → Option β) (m : OrderedMap α) : OrderedMap β where
  entries := m.entries.filterMap fun (k, v) => (f v).map fun w => (k, w)
  nodup_keys := by
    obtain ⟨entries, h⟩ := m
    induction entries with
    | nil => simp
    | cons e rest ih =>
      simp only [List.map_cons, List.nodup_cons] at h
      cases hf : f e.2 with
      | none => simpa [List.filterMap_cons, hf] using ih h.2
      | some w =>
        simp only [List.filterMap_cons, hf, Option.map_some, List.map_cons, List.nodup_cons]
        refine ⟨fun hm => h.1 ?_, ih h.2⟩
        simp only [List.mem_map, List.mem_filterMap, Option.map_eq_some_iff] at hm ⊢
        obtain ⟨_, ⟨pair, hmem, _, _, rfl⟩, hk⟩ := hm
        exact ⟨pair, hmem, hk⟩

/-- The map without `key`; the last pair takes its place. -/
def swapErase (m : OrderedMap α) (key : String) : OrderedMap α := ⟨swapOut key m.entries, nodup_swapOut m.nodup_keys⟩

/-- The pairs ascending by key. Texts are ordered by code points. -/
def sorted (m : OrderedMap α) : OrderedMap α where
  entries := m.entries.mergeSort fun a b => decide (a.1 ≤ b.1)
  nodup_keys := ((List.mergeSort_perm m.entries _).map Prod.fst).nodup_iff.mpr m.nodup_keys

/-! ## What the operations do to the value of a key -/

@[simp] theorem get?_empty (key : String) : (empty : OrderedMap α).get? key = none := rfl

theorem get?_insert (m : OrderedMap α) (key k : String) (value : α) :
    (m.insert key value).get? k = if k = key then some value else m.get? k := find_put

@[simp] theorem get?_insert_self (m : OrderedMap α) (key : String) (value : α) :
    (m.insert key value).get? key = some value := by simp [get?_insert]

theorem get?_eq_some_iff {m : OrderedMap α} {key : String} {value : α} :
    m.get? key = some value ↔ (key, value) ∈ m.entries := find_eq_some_iff m.nodup_keys

theorem get?_foldl_insert (pairs : List (String × α)) (m : OrderedMap α) (key : String) :
    (pairs.foldl (fun m (k, v) => m.insert k v) m).get? key =
      (((pairs.filter (·.1 = key)).getLast?).map Prod.snd).or (m.get? key) := by
  induction pairs generalizing m with
  | nil => rfl
  | cons pair rest ih =>
    obtain ⟨k, v⟩ := pair
    rw [List.foldl_cons, ih, get?_insert]
    by_cases h : k = key
    · subst h
      rw [if_pos rfl, List.filter_cons_of_pos (by simp), List.getLast?_cons]
      cases (rest.filter (·.1 = k)).getLast? <;> rfl
    · rw [if_neg (Ne.symm h), List.filter_cons_of_neg (by simpa using h)]

/-- Of the pairs with one key, the last gives its value. -/
theorem get?_ofList (pairs : List (String × α)) (key : String) :
    (ofList pairs).get? key = ((pairs.filter (·.1 = key)).getLast?).map Prod.snd := by
  rw [ofList, get?_foldl_insert, get?_empty, Option.or_none]

/-- A key whose pairs all have one value has this value. -/
theorem get?_ofList_eq_some {pairs : List (String × α)} {key : String} {value : α} (hmem : (key, value) ∈ pairs)
    (hall : ∀ v, (key, v) ∈ pairs → v = value) : (ofList pairs).get? key = some value := by
  rw [get?_ofList]
  cases h : (pairs.filter (·.1 = key)).getLast? with
  | none =>
    have hne : (key, value) ∈ pairs.filter (·.1 = key) := List.mem_filter.mpr ⟨hmem, by simp⟩
    rw [List.getLast?_eq_none_iff.mp h] at hne
    cases hne
  | some last =>
    obtain ⟨hlast, hkey⟩ := List.mem_filter.mp (List.mem_of_getLast? h)
    obtain rfl : last.1 = key := by simpa using hkey
    rw [Option.map_some, hall last.2 hlast]

/-- A key that no pair has is absent. -/
theorem get?_ofList_eq_none {pairs : List (String × α)} {key : String} (h : key ∉ pairs.map Prod.fst) :
    (ofList pairs).get? key = none := by
  rw [get?_ofList, List.filter_eq_nil_iff.mpr]
  · rfl
  · intro pair hpair hkey
    exact h (List.mem_map.mpr ⟨pair, hpair, by simpa using hkey⟩)

@[simp] theorem get?_mapValues (f : String → α → β) (m : OrderedMap α) (key : String) :
    (m.mapValues f).get? key = (m.get? key).map (f key) := find_map

@[simp] theorem keys_mapValues (f : String → α → β) (m : OrderedMap α) : (m.mapValues f).keys = m.keys := by
  simp [keys, mapValues, Function.comp_def]

theorem mem_keys_insert {m : OrderedMap α} {key k : String} {value : α} :
    k ∈ (m.insert key value).keys ↔ k = key ∨ k ∈ m.keys := mem_keys_put

theorem mem_keys_iff {m : OrderedMap α} {key : String} : key ∈ m.keys ↔ ∃ value, m.get? key = some value := by
  simp only [get?_eq_some_iff, keys, List.mem_map]
  exact ⟨fun ⟨(k, v), hm, hk⟩ => ⟨v, hk ▸ hm⟩, fun ⟨v, hm⟩ => ⟨(key, v), hm, rfl⟩⟩

end OrderedMap

end Phrasebook
