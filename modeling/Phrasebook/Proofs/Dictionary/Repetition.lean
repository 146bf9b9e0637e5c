import Phrasebook.Proofs.Dictionary.Merge

/-!
# Merging again

What a merge makes is a fixed point of the same merge: every id that was found has a text or what it would take again
(`settled_of_settled`), no other id is there that would go (`kept_merge`), and the order is the one that it would be put in
(`order_merge`). The fallback may be another dictionary in the second merge, as long as it has no text for an id that lacks
one (`merge_merge`).
-/

namespace Phrasebook.Dictionary

open OrderedMap

variable {d existing : Dictionary} {ids : List String} {id key : String} {defaultMessages : OrderedMap String}
  {fallback fallback' : Option Dictionary} {options : MergeOptions} {outcome : MergeOutcome}

/-! ## Orders -/

theorem sorted_sorted (d : Dictionary) : d.sorted.sorted = d.sorted := by
  refine ext_entries (List.mergeSort_of_pairwise (List.pairwise_mergeSort ?_ ?_ _))
  · intro a b c hab hbc
    simp only [decide_eq_true_eq] at hab hbc ⊢
    exact String.le_trans hab hbc
  · intro a b
    simpa using String.le_total a.1 b.1

/-- The ids of a dictionary that were not found. -/
def leftOver (d : Dictionary) (ids : List String) : List String := d.keys.filter (· ∉ ids)

/-- Taking the ids that were found out of the dictionary moves no other: there is at most one other, or nothing is taken out.
Else the last of the others come to the places of ids that are taken out, and change their order with that. -/
def StaysInPlace (d : Dictionary) (ids : List String) : Prop :=
  (leftOver d ids).length ≤ 1 ∨ ∀ id ∈ ids, d.contains id = false

instance (d : Dictionary) (ids : List String) : Decidable (StaysInPlace d ids) :=
  inferInstanceAs (Decidable (_ ∨ _))

/-- Ordering a dictionary by its sources leaves it as it is, if none of the ids that were found is held. -/
theorem bySource_of_noneHeld (h : ∀ id ∈ ids, d.contains id = false) : d.bySource ids = d := by
  have htake : takeAll (.empty, d) ids = (.empty, d) := by
    induction ids with
    | nil => rfl
    | cons id ids ih =>
      have hid : d.get? id = none := by simpa [contains] using h id List.mem_cons_self
      rw [takeAll_cons, take, hid]
      exact ih fun k hk => h k (List.mem_cons_of_mem _ hk)
  rw [bySource_eq, htake]
  exact ofList_entries d

/-- Ordering by source again changes nothing, if no id that was not found changes its place. -/
theorem bySource_bySource (hids : ids.Nodup) (hplace : StaysInPlace (d.bySource ids) ids) :
    (d.bySource ids).bySource ids = d.bySource ids := by
  rcases hplace with hleft | hnone
  · obtain ⟨others, hentries, hothers⟩ := entries_bySource d hids
    have hheld : heldOf (d.bySource ids) ids = heldOf d ids :=
      List.filterMap_congr fun id _ => by rw [get?_bySource]
    have hfound : (heldOf d ids).filter (·.1 ∉ ids) = [] := by
      refine List.filter_eq_nil_iff.mpr fun pair hpair => ?_
      obtain ⟨id, hid, hvalue⟩ := List.mem_filterMap.mp hpair
      obtain ⟨value, -, rfl⟩ := Option.map_eq_some_iff.mp hvalue
      simpa using hid
    have hleftOver : others.filter (·.1 ∉ ids) = others :=
      List.filter_eq_self.mpr fun pair hpair => (List.mem_filter.mp (hothers.mem_iff.mp hpair)).2
    have hsame : (d.bySource ids).entries.filter (·.1 ∉ ids) = others := by
      rw [hentries, List.filter_append, hfound, hleftOver, List.nil_append]
    have hbehind : (behindFound (d.bySource ids) ids).length ≤ 1 :=
      Nat.le_trans ((List.dropWhile_sublist _).filter _).length_le hleft
    exact ext_entries (by rw [entries_bySource_of_behind _ hids hbehind, hheld, hsame, hentries])
  · exact bySource_of_noneHeld hnone

/-- An order is one that it leaves as it is. -/
theorem order_order (order : KeyOrder) (hids : ids.Nodup)
    (hplace : order = .source → StaysInPlace (d.order ids order) ids) :
    (d.order ids order).order ids order = d.order ids order := by
  cases order with
  | keys => exact sorted_sorted d
  | source => exact bySource_bySource hids (hplace rfl)
  | none => rfl

/-! ## Ids -/

/-- Merging ids that are settled changes nothing. -/
theorem mergeIds_eq_self {candidate? : String → Option String}
    (h : ∀ id ∈ ids, settled (candidate? id) (outcome.dictionary.get? id) = outcome.dictionary.get? id) :
    mergeIds candidate? outcome ids = outcome := by
  induction ids with
  | nil => rfl
  | cons id ids ih =>
    rw [mergeIds, List.foldl_cons, mergeId_eq_self (h id List.mem_cons_self)]
    exact ih fun k hk => h k (List.mem_cons_of_mem _ hk)

/-- A text of the fallback is not empty. -/
theorem hasText_of_fallbackText? {text : String} (h : fallbackText? fallback id = some text) :
    (Json.string text).hasText = true := by
  obtain ⟨value, -, hvalue⟩ := Option.bind_eq_some_iff.mp h
  split at hvalue
  · next htext =>
    cases value with
    | string s =>
      obtain rfl := Option.some.inj hvalue
      exact htext
    | _ => cases hvalue
  · cases hvalue

/-- An id that is settled is settled for another fallback too, if that has no text for an id that is without one and takes no
default message. -/
theorem settled_of_settled {held before : Option Json}
    (hheld : held = settled (candidate? defaultMessages fallback options id) before)
    (hfallback : ¬(options.isDefaultLanguage = true ∧ id ∈ defaultMessages.keys) → (fallbackText? fallback' id).isSome →
      held.any Json.hasText = true) :
    settled (candidate? defaultMessages fallback' options id) held = held := by
  by_cases htext : held.any Json.hasText
  · rw [settled, if_pos htext]
  · have hsame : candidate? defaultMessages fallback' options id = candidate? defaultMessages fallback options id := by
      by_cases hdefault : options.isDefaultLanguage = true ∧ id ∈ defaultMessages.keys
      · rw [candidate?_of_default hdefault, candidate?_of_default hdefault]
      · have hnone' : fallbackText? fallback' id = none := by
          by_contra hsome
          exact htext (hfallback hdefault (Option.isSome_iff_ne_none.mpr hsome))
        rw [candidate?_of_noDefault hdefault] at hheld
        rw [candidate?_of_noDefault hdefault, candidate?_of_noDefault hdefault, hnone']
        cases hfallback : fallbackText? fallback id with
        | none => rfl
        | some text =>
          -- the text would have been taken
          rw [hfallback, Option.some_or] at hheld
          refine absurd ?_ htext
          rw [hheld, settled]
          split
          · assumption
          · exact hasText_of_fallbackText? hfallback
    rw [hsame, hheld, settled_settled]

/-! ## Dictionaries -/

/-- The ids of a merged dictionary all stay in another merge. -/
theorem kept_merge (existing : Dictionary) (ids : List String) (defaultMessages : OrderedMap String)
    (fallback : Option Dictionary) (options : MergeOptions) :
    kept (existing.merge ids defaultMessages fallback options).dictionary ids options =
      (existing.merge ids defaultMessages fallback options).dictionary := by
  unfold kept
  split
  · rfl
  · next hreserve =>
    refine ext_entries (List.filter_eq_self.mpr fun pair hpair => ?_)
    have hheld := get?_eq_some_iff.mpr hpair
    rw [get?_merge] at hheld
    by_cases hmem : pair.1 ∈ ids
    · simpa using hmem
    · rw [if_neg hmem, if_neg hreserve] at hheld
      cases hheld

/-- A merged dictionary is in its order. -/
theorem order_merge (hids : ids.Nodup) (hplace : options.order = .source →
      StaysInPlace (existing.merge ids defaultMessages fallback options).dictionary ids) :
    (existing.merge ids defaultMessages fallback options).dictionary.order ids options.order =
      (existing.merge ids defaultMessages fallback options).dictionary := by
  rw [merge_eq] at hplace ⊢
  exact order_order _ hids hplace

/-- Merging again only puts the dictionary in its order, if all ids that were found are settled. -/
theorem merge_of_settled (h : ∀ id ∈ ids, settled (candidate? defaultMessages fallback' options id)
      ((existing.merge ids defaultMessages fallback options).dictionary.get? id) =
        (existing.merge ids defaultMessages fallback options).dictionary.get? id) :
    (existing.merge ids defaultMessages fallback options).dictionary.merge ids defaultMessages fallback' options =
      ⟨(existing.merge ids defaultMessages fallback options).dictionary.order ids options.order, 0, 0, 0⟩ := by
  rw [merge_eq (existing.merge ids defaultMessages fallback options).dictionary, kept_merge, Nat.sub_self,
    mergeIds_eq_self]
  exact h

/-- Merging again changes nothing, also with another fallback that has no text for an id that is without one and takes no default
message. -/
theorem merge_merge (hids : ids.Nodup)
    (hfallback : ∀ id ∈ ids, ¬(options.isDefaultLanguage = true ∧ id ∈ defaultMessages.keys) →
      (fallbackText? fallback' id).isSome →
        ((existing.merge ids defaultMessages fallback options).dictionary.get? id).any Json.hasText = true)
    (hplace : options.order = .source →
      StaysInPlace (existing.merge ids defaultMessages fallback options).dictionary ids) :
    (existing.merge ids defaultMessages fallback options).dictionary.merge ids defaultMessages fallback' options =
      ⟨(existing.merge ids defaultMessages fallback options).dictionary, 0, 0, 0⟩ := by
  rw [merge_of_settled]
  · exact congrArg (MergeOutcome.mk · 0 0 0) (order_merge hids hplace)
  · intro id hid
    have hheld := get?_merge existing ids defaultMessages fallback options id
    rw [if_pos hid] at hheld
    exact settled_of_settled hheld (hfallback id hid)

/-- Merging again with the same arguments changes nothing: the same ids hold the same values, nothing is added, filled or
removed, and unless the ids are ordered by their sources they also stand where they stood. -/
theorem merge_idempotent (existing : Dictionary) (ids : List String) (defaultMessages : OrderedMap String)
    (fallback : Option Dictionary) (options : MergeOptions) :
    let first := existing.merge ids defaultMessages fallback options
    let second := first.dictionary.merge ids defaultMessages fallback options
    (∀ id, second.dictionary.get? id = first.dictionary.get? id) ∧
      second.dictionary.entries.Perm first.dictionary.entries ∧
      (second.added = 0 ∧ second.filled = 0 ∧ second.removed = 0) ∧
      (options.order ≠ .source → second.dictionary = first.dictionary) := by
  intro first second
  have hsecond : second = ⟨first.dictionary.order ids options.order, 0, 0, 0⟩ := by
    refine merge_of_settled fun id hid => ?_
    rw [get?_merge, if_pos hid, settled_settled]
  have hheld : ∀ id, second.dictionary.get? id = first.dictionary.get? id := by
    intro id
    rw [hsecond]
    exact get?_order ..
  refine ⟨hheld, entries_perm_of_get? hheld, by simp [hsecond], fun horder => ?_⟩
  rw [hsecond]
  have hfirst : ∃ d : Dictionary, first.dictionary = d.order ids options.order := ⟨_, congrArg _ (merge_eq ..)⟩
  obtain ⟨d, hd⟩ := hfirst
  cases hmode : options.order with
  | keys =>
    rw [hmode] at hd
    rw [hd]
    exact sorted_sorted d
  | source => exact absurd hmode horder
  | none => rfl

end Phrasebook.Dictionary
