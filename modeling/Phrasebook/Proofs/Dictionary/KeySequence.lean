import Phrasebook.Proofs.Dictionary.Merge

/-!
# The sequence of merged keys

In which sequence a merged dictionary has its keys (`keys_merge`). Merging puts new ids behind the others (`keys_mergeIds`).
Ordered by its sources, a dictionary has the ids that were found in front, as they were found. The others follow in the
sequence that is left when the ids before are taken out one by one, each leaving its place to the last key: it is the
sequence they had, if at most one of them stands behind an id that is taken out (`entries_bySource_of_behind`).
-/

namespace Phrasebook.Dictionary

open OrderedMap

variable {d existing taken rest : Dictionary} {ids : List String} {id key : String} {defaultMessages : OrderedMap String}
  {fallback : Option Dictionary} {options : MergeOptions} {front back : List (String × Json)}

/-! ## Merging -/

/-- An id that is new and has a candidate comes behind all others. -/
theorem keys_mergeId (outcome : MergeOutcome) (id : String) (candidate : Option String) :
    (mergeId outcome id candidate).dictionary.keys =
      outcome.dictionary.keys ++ [id].filter fun id => id ∉ outcome.dictionary.keys ∧ candidate.isSome := by
  obtain ⟨hsettled, heq⟩ | ⟨text, rfl, hnone, heq⟩ | ⟨text, value, -, hvalue, -, -, heq⟩ := mergeId_cases outcome id candidate
  · have hnot : ¬(id ∉ outcome.dictionary.keys ∧ candidate.isSome) := by
      rintro ⟨hnew, hsome⟩
      obtain ⟨text, rfl⟩ := Option.isSome_iff_exists.mp hsome
      rw [get?_eq_none_iff.mpr hnew] at hsettled
      cases hsettled
    rw [heq, List.filter_cons_of_neg (by simpa using hnot), List.filter_nil, List.append_nil]
  · have hnew : id ∉ outcome.dictionary.keys := get?_eq_none_iff.mp hnone
    simp [heq, keys_insert, hnew]
  · have hold : id ∈ outcome.dictionary.keys := mem_keys_iff.mpr ⟨value, hvalue⟩
    simp [heq, keys_insert, hold]

/-- Different ids come behind all others in their order, those that are new and have candidates. -/
theorem keys_mergeIds (candidate? : String → Option String) (outcome : MergeOutcome) (hids : ids.Nodup) :
    (mergeIds candidate? outcome ids).dictionary.keys =
      outcome.dictionary.keys ++ ids.filter fun id => id ∉ outcome.dictionary.keys ∧ (candidate? id).isSome := by
  induction ids generalizing outcome with
  | nil => exact (List.append_nil _).symm
  | cons id ids ih =>
    obtain ⟨hid, hids⟩ := List.nodup_cons.mp hids
    have hstep := keys_mergeId outcome id (candidate? id)
    rw [mergeIds, List.foldl_cons, ← mergeIds, ih _ hids, hstep, List.append_assoc, ← List.singleton_append (l := ids),
      List.filter_append]
    congr 2
    refine List.filter_congr fun k hk => ?_
    have hne : k ≠ id := by
      rintro rfl
      exact hid hk
    simp [hne]

theorem keys_kept (existing : Dictionary) (ids : List String) (options : MergeOptions) :
    (kept existing ids options).keys = existing.keys.filter fun id => id ∈ ids ∨ options.reserveKeys = true := by
  unfold kept
  by_cases hreserve : options.reserveKeys
  · simp [hreserve]
  · simp [hreserve, keys_filter]

/-- An existing id is kept if it was found or such ids are reserved. -/
theorem mem_keys_merge_of_existing (hid : id ∈ existing.keys) :
    id ∈ (existing.merge ids defaultMessages fallback options).dictionary.keys ↔ id ∈ ids ∨ options.reserveKeys = true := by
  obtain ⟨value, hvalue⟩ := mem_keys_iff.mp hid
  rw [mem_keys_iff, get?_merge, hvalue]
  by_cases hmem : id ∈ ids
  · simp only [hmem, if_true, true_or, iff_true, settled]
    split
    · exact ⟨value, rfl⟩
    · cases candidate? defaultMessages fallback options id <;> simp
  · cases options.reserveKeys <;> simp [hmem]

/-- A new id is there if it was found and has a candidate. -/
theorem mem_keys_merge_of_new (hid : id ∉ existing.keys) :
    id ∈ (existing.merge ids defaultMessages fallback options).dictionary.keys ↔
      id ∈ ids ∧ (candidate? defaultMessages fallback options id).isSome := by
  rw [mem_keys_iff, get?_merge, get?_eq_none_iff.mpr hid]
  by_cases hmem : id ∈ ids
  · cases candidate? defaultMessages fallback options id <;> simp [hmem, settled]
  · simp [hmem]

/-! ## Ordering -/

theorem mem_keys_order (d : Dictionary) (ids : List String) (order : KeyOrder) (id : String) :
    id ∈ (d.order ids order).keys ↔ id ∈ d.keys := by
  rw [mem_keys_iff, mem_keys_iff, get?_order]

theorem map_fst_heldOf (d : Dictionary) (ids : List String) : (heldOf d ids).map Prod.fst = ids.filter (· ∈ d.keys) := by
  induction ids with
  | nil => rfl
  | cons id ids ih =>
    cases hid : d.get? id with
    | none =>
      rw [heldOf, List.filterMap_cons_none (by rw [hid]; rfl), ← heldOf, ih,
        List.filter_cons_of_neg (by simpa using get?_eq_none_iff.mp hid)]
    | some value =>
      rw [heldOf, List.filterMap_cons_some (by rw [hid]; rfl), ← heldOf, List.map_cons, ih,
        List.filter_cons_of_pos (by simpa using mem_keys_iff.mpr ⟨value, hid⟩)]

/-- The ids of a dictionary ordered by its sources: those that were found in front, as they were found, and the others behind
them, in their order if at most one of them stands behind one that was found. -/
theorem keys_bySource (d : Dictionary) (hids : ids.Nodup) :
    ∃ others, (d.bySource ids).keys = ids.filter (· ∈ d.keys) ++ others ∧ others.Perm (d.keys.filter (· ∉ ids)) ∧
      ((behindFound d ids).length ≤ 1 → others = d.keys.filter (· ∉ ids)) := by
  have hkeys : ∀ entries : List (String × Json), (entries.filter (·.1 ∉ ids)).map Prod.fst =
      (entries.map Prod.fst).filter (· ∉ ids) := fun entries => by
    rw [List.filter_map]
    rfl
  obtain ⟨others, hentries, hothers⟩ := entries_bySource d hids
  refine ⟨others.map Prod.fst, ?_, ?_, fun hbehind => ?_⟩
  · rw [keys, hentries, List.map_append, map_fst_heldOf]
  · rw [keys, ← hkeys]
    exact hothers.map Prod.fst
  · rw [entries_bySource_of_behind d hids hbehind] at hentries
    rw [← List.append_cancel_left hentries, keys, hkeys]

/-- What is put behind a list and satisfies `p` nowhere is not among what stands behind the first element without `p`. -/
theorem filter_dropWhile_append {α : Type} {p : α → Bool} {l l' : List α} (h : ∀ a ∈ l', p a = false) :
    ((l ++ l').dropWhile p).filter p = (l.dropWhile p).filter p := by
  have hnone : l'.filter p = [] := List.filter_eq_nil_iff.mpr fun a ha => by simp [h a ha]
  have hdrop : (l'.dropWhile p).filter p = [] := by
    rw [← List.sublist_nil, ← hnone]
    exact (List.dropWhile_sublist p).filter p
  rw [List.dropWhile_append]
  split
  · next hempty => rw [hdrop, List.isEmpty_iff.mp hempty, List.filter_nil]
  · rw [List.filter_append, hnone, List.append_nil]

/-- New ids were all found, so that they do not count as ids behind one that was found. -/
theorem behindFound_mergeIds (candidate? : String → Option String) (outcome : MergeOutcome) (hids : ids.Nodup) :
    behindFound (mergeIds candidate? outcome ids).dictionary ids = behindFound outcome.dictionary ids := by
  unfold behindFound
  rw [keys_mergeIds candidate? outcome hids]
  apply filter_dropWhile_append
  intro id hid
  simp [(List.mem_filter.mp hid).1]

/-- Where ids that were not found are not kept, none of them stands anywhere. -/
theorem length_behindFound_kept (h : options.reserveKeys = true → (behindFound existing ids).length ≤ 1) :
    (behindFound (kept existing ids options) ids).length ≤ 1 := by
  by_cases hreserve : options.reserveKeys = true
  · rw [kept, if_pos hreserve]
    exact h hreserve
  · have hnone : behindFound (kept existing ids options) ids = [] := by
      refine List.filter_eq_nil_iff.mpr fun id hid => ?_
      have hkept := (List.dropWhile_sublist _).subset hid
      rw [keys_kept, List.mem_filter] at hkept
      simpa [hreserve] using hkept.2
    rw [hnone]
    exact Nat.zero_le 1

/-! ## Merged dictionaries -/

/-- The dictionary after all ids are merged, before it is put in its order. -/
def mergedIds (existing : Dictionary) (ids : List String) (defaultMessages : OrderedMap String)
    (fallback : Option Dictionary) (options : MergeOptions) : Dictionary :=
  (mergeIds (candidate? defaultMessages fallback options)
    ⟨kept existing ids options, 0, 0, existing.size - (kept existing ids options).size⟩ ids).dictionary

theorem merge_eq_order (existing : Dictionary) (ids : List String) (defaultMessages : OrderedMap String)
    (fallback : Option Dictionary) (options : MergeOptions) :
    (existing.merge ids defaultMessages fallback options).dictionary =
      (mergedIds existing ids defaultMessages fallback options).order ids options.order := rfl

/-- The existing ids that are kept are those of the merged dictionary. -/
theorem keys_kept_eq : (kept existing ids options).keys = existing.keys.filter
    (· ∈ (existing.merge ids defaultMessages fallback options).dictionary.keys) := by
  rw [keys_kept]
  refine List.filter_congr fun id hid => ?_
  simp only [mem_keys_merge_of_existing hid]

/-- The ids that come behind the kept ones are the new ones of the merged dictionary. -/
theorem filter_new_eq : (ids.filter fun id => id ∉ (kept existing ids options).keys ∧
      (candidate? defaultMessages fallback options id).isSome) =
    ids.filter fun id => id ∉ existing.keys ∧
      id ∈ (existing.merge ids defaultMessages fallback options).dictionary.keys := by
  refine List.filter_congr fun id hid => ?_
  by_cases hold : id ∈ existing.keys
  · have hkept : id ∈ (kept existing ids options).keys := by
      rw [keys_kept]
      exact List.mem_filter.mpr ⟨hold, by simp [hid]⟩
    simp [hold, hkept]
  · have hkept : id ∉ (kept existing ids options).keys := by
      rw [keys_kept]
      exact fun h => hold (List.mem_filter.mp h).1
    simp only [hold, hkept, mem_keys_merge_of_new hold, hid, true_and]

/-- Before they are put in order, the ids that are kept stand in the order they had, and the new ones behind them. -/
theorem keys_mergedIds (hids : ids.Nodup) : (mergedIds existing ids defaultMessages fallback options).keys =
    existing.keys.filter (· ∈ (existing.merge ids defaultMessages fallback options).dictionary.keys) ++
      ids.filter fun id => id ∉ existing.keys ∧
        id ∈ (existing.merge ids defaultMessages fallback options).dictionary.keys := by
  rw [mergedIds, keys_mergeIds _ _ hids, filter_new_eq, keys_kept_eq]

/-- Of these ids, those that were not found are the existing ones that are kept without that. -/
theorem filter_keys_mergedIds (hids : ids.Nodup) :
    (mergedIds existing ids defaultMessages fallback options).keys.filter (· ∉ ids) = existing.keys.filter fun id =>
      id ∉ ids ∧ id ∈ (existing.merge ids defaultMessages fallback options).dictionary.keys := by
  have hnew : (ids.filter fun id => id ∉ existing.keys ∧
      id ∈ (existing.merge ids defaultMessages fallback options).dictionary.keys).filter (· ∉ ids) = [] :=
    List.filter_eq_nil_iff.mpr fun id hid => by simp [(List.mem_filter.mp hid).1]
  rw [keys_mergedIds hids, List.filter_append, hnew, List.append_nil, List.filter_filter]
  simp only [Bool.decide_and]

/-- In which sequence a merged dictionary has its ids. Ordered by ids, they ascend strictly. Ordered by the sources, those that
were found come first, as they were found, and then the others, in the order they had if at most one that is kept without
being found stands behind one that was found. Else the ids that are kept come first, in the order they had, and then those
that are new, as they were found. -/
theorem keys_merge (existing : Dictionary) (defaultMessages : OrderedMap String) (fallback : Option Dictionary)
    (options : MergeOptions) (hids : ids.Nodup) :
    let merged := (existing.merge ids defaultMessages fallback options).dictionary
    (options.order = .keys → merged.keys.Pairwise (· < ·)) ∧
      (options.order = .source → ∃ others, merged.keys = ids.filter (· ∈ merged.keys) ++ others ∧
        others.Perm (existing.keys.filter fun id => id ∉ ids ∧ id ∈ merged.keys) ∧
        ((options.reserveKeys = true → (behindFound existing ids).length ≤ 1) →
          others = existing.keys.filter fun id => id ∉ ids ∧ id ∈ merged.keys)) ∧
      (options.order = .none → merged.keys =
        existing.keys.filter (· ∈ merged.keys) ++ ids.filter fun id => id ∉ existing.keys ∧ id ∈ merged.keys) := by
  intro merged
  have hmerged : merged = (mergedIds existing ids defaultMessages fallback options).order ids options.order :=
    merge_eq_order ..
  refine ⟨fun horder => ?keys, fun horder => ?source, fun horder => ?none⟩
  case keys =>
    rw [hmerged, horder]
    exact pairwise_keys_sorted _
  case source =>
    obtain ⟨others, hkeys, hperm, hplace⟩ := keys_bySource (mergedIds existing ids defaultMessages fallback options) hids
    rw [filter_keys_mergedIds hids] at hperm hplace
    have hfound : ids.filter (· ∈ merged.keys) =
        ids.filter (· ∈ (mergedIds existing ids defaultMessages fallback options).keys) :=
      List.filter_congr fun id _ => by simp only [hmerged, mem_keys_order]
    refine ⟨others, ?_, hperm, fun hbehind => hplace ?_⟩
    · rw [hfound, ← hkeys, hmerged, horder]
      rfl
    · rw [mergedIds, behindFound_mergeIds _ _ hids]
      exact length_behindFound_kept hbehind
  case none =>
    rw [← keys_mergedIds hids, hmerged, horder]
    rfl

namespace KeySequenceWitness

/-- Two ids that the sources may not have, in front of one that they have and behind it. -/
def texts : Dictionary := .ofList [("old", .string "Old"), ("b", .string ""), ("spare", .string "Spare")]

/-- The same two ids, both behind the one that the sources have. -/
def textsBehind : Dictionary := .ofList [("b", .string "Bee"), ("old", .string "Old"), ("spare", .string "Spare")]

def messages : OrderedMap String := .ofList [("c", "See"), ("b", "Bee")]

def bySources : MergeOptions := ⟨true, true, true, .source⟩

end KeySequenceWitness

open KeySequenceWitness in
theorem keys_merge_texts : ["c", "b"].Nodup ∧ (behindFound texts ["c", "b"]).length ≤ 1 ∧
    (texts.merge ["c", "b"] messages none bySources).dictionary.keys = ["c", "b"] ++ ["old", "spare"] := by
  have hids : ["c", "b"].Nodup := by decide
  have hbehind : (behindFound texts ["c", "b"]).length ≤ 1 := by decide
  obtain ⟨others, hkeys, -, hplace⟩ := (keys_merge texts messages none bySources hids).2.1 rfl
  refine ⟨hids, hbehind, ?_⟩
  rw [hkeys, hplace fun _ => hbehind]
  decide

open KeySequenceWitness in
/-- Two ids that the sources do not have change places, since the last one takes the place of the id in front of them. -/
theorem keys_merge_source_false :
    let merged := (textsBehind.merge ["b"] messages none bySources).dictionary
    merged.keys = ["b", "spare", "old"] ∧
      (["b"].filter (· ∈ merged.keys) ++ textsBehind.keys.filter fun id => id ∉ ["b"] ∧ id ∈ merged.keys) =
        ["b", "old", "spare"] := by
  decide

end Phrasebook.Dictionary
