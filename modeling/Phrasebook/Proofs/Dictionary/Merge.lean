import Phrasebook.Dictionary.Merge
import Phrasebook.Proofs.Dictionary.Order

/-!
# What ids hold after a merge

One id after the other takes its candidate if it has no text, and none touches another (`mergeId_cases`); so what an id holds
in the end depends on what it held before and on its own candidate only (`get?_mergeIds`). From this follows what the merge of a
locale makes of each id (`get?_merge_precedence`): a text that is there is never replaced, and no id comes from nowhere.
-/

namespace Phrasebook.Dictionary

open OrderedMap

variable {outcome : MergeOutcome} {existing : Dictionary} {ids : List String} {id key : String}
  {defaultMessages : OrderedMap String} {fallback : Option Dictionary} {options : MergeOptions}

/-- What an id holds once it has been merged: its own value if that says something or there is no candidate, and the
candidate otherwise. -/
def settled (candidate : Option String) (held : Option Json) : Option Json :=
  if held.any Json.hasText then held else (candidate.map Json.string).or held

theorem settled_settled (candidate : Option String) (held : Option Json) :
    settled candidate (settled candidate held) = settled candidate held := by
  unfold settled
  cases candidate with
  | none => simp
  | some text =>
    by_cases h : held.any Json.hasText
    · simp [h]
    · simp [h]

/-- A value without a text that equals a candidate is the candidate. -/
theorem eq_string_of_text? {value : Json} {text : String} (h : (value.text? == some text) = true) :
    value = .string text := by
  cases value with
  | string s => simpa [Json.text?] using h
  | _ => simp [Json.text?] at h

/-- All that merging an id can do: nothing where the id is settled, or add the id with its candidate, or put the candidate in
place of a value that says nothing. -/
theorem mergeId_cases (outcome : MergeOutcome) (id : String) (candidate : Option String) :
    (settled candidate (outcome.dictionary.get? id) = outcome.dictionary.get? id ∧ mergeId outcome id candidate = outcome) ∨
    (∃ text, candidate = some text ∧ outcome.dictionary.get? id = none ∧ mergeId outcome id candidate =
      { outcome with dictionary := outcome.dictionary.insert id (.string text), added := outcome.added + 1 }) ∨
    ∃ text value, candidate = some text ∧ outcome.dictionary.get? id = some value ∧ value.hasText = false ∧
      value ≠ .string text ∧ mergeId outcome id candidate =
        { outcome with dictionary := outcome.dictionary.insert id (.string text), filled := outcome.filled + 1 } := by
  unfold mergeId
  cases candidate with
  | none => exact .inl ⟨by simp [settled], rfl⟩
  | some text =>
    cases hheld : outcome.dictionary.get? id with
    | none => exact .inr (.inl ⟨text, rfl, rfl, rfl⟩)
    | some value =>
      by_cases htext : value.hasText = true
      · exact .inl ⟨by simp [settled, htext], by simp only [htext, Bool.true_or, if_true]⟩
      · by_cases hsame : value.text? == some text
        · obtain rfl := eq_string_of_text? hsame
          exact .inl ⟨by simp [settled], by simp only [hsame, Bool.or_true, if_true]⟩
        · refine .inr (.inr ⟨text, value, rfl, rfl, by simpa using htext, ?_, by simp only [htext, hsame]; rfl⟩)
          rintro rfl
          simp [Json.text?] at hsame

/-- Merging an id settles it and leaves all others as they are. -/
theorem get?_mergeId (outcome : MergeOutcome) (id : String) (candidate : Option String) (key : String) :
    (mergeId outcome id candidate).dictionary.get? key =
      if key = id then settled candidate (outcome.dictionary.get? id) else outcome.dictionary.get? key := by
  obtain ⟨hsettled, heq⟩ | ⟨text, rfl, hnone, heq⟩ | ⟨text, value, rfl, hvalue, htext, -, heq⟩ :=
    mergeId_cases outcome id candidate
  · rw [heq, hsettled]
    split
    · next hkey => rw [hkey]
    · rfl
  · simp only [heq, get?_insert, hnone, settled]
    rfl
  · simp only [heq, get?_insert, hvalue, settled, Option.any_some, htext]
    rfl

/-- An id that has a text, or what it would take, is left as it is. -/
theorem mergeId_eq_self {candidate : Option String}
    (h : settled candidate (outcome.dictionary.get? id) = outcome.dictionary.get? id) :
    mergeId outcome id candidate = outcome := by
  obtain ⟨-, heq⟩ | ⟨text, rfl, hnone, -⟩ | ⟨text, value, rfl, hvalue, htext, hne, -⟩ := mergeId_cases outcome id candidate
  · exact heq
  · rw [hnone] at h
    cases h
  · rw [hvalue, settled, Option.any_some, htext] at h
    exact absurd (Option.some.inj h).symm hne

/-- The outcome after ids have been merged one after the other. -/
def mergeIds (candidate? : String → Option String) (outcome : MergeOutcome) (ids : List String) : MergeOutcome :=
  ids.foldl (fun o id => mergeId o id (candidate? id)) outcome

/-- After a run of merges each id of the run is settled, and all others are as they were. -/
theorem get?_mergeIds (candidate? : String → Option String) (outcome : MergeOutcome) (ids : List String) (key : String) :
    (mergeIds candidate? outcome ids).dictionary.get? key =
      if key ∈ ids then settled (candidate? key) (outcome.dictionary.get? key) else outcome.dictionary.get? key := by
  induction ids generalizing outcome with
  | nil => rfl
  | cons id ids ih =>
    have hstep := get?_mergeId outcome id (candidate? id) key
    rw [mergeIds, List.foldl_cons, ← mergeIds, ih, hstep]
    by_cases hkey : key = id
    · subst hkey
      simp only [if_true, List.mem_cons_self, settled_settled, ite_self]
    · simp only [hkey, List.mem_cons, false_or, if_false]

/-- The existing ids that stay in a merge. -/
def kept (existing : Dictionary) (ids : List String) (options : MergeOptions) : Dictionary :=
  if options.reserveKeys then existing else existing.filter fun id _ => ids.contains id

theorem merge_eq (existing : Dictionary) (ids : List String) (defaultMessages : OrderedMap String)
    (fallback : Option Dictionary) (options : MergeOptions) :
    existing.merge ids defaultMessages fallback options =
      let outcome := mergeIds (candidate? defaultMessages fallback options)
        ⟨kept existing ids options, 0, 0, existing.size - (kept existing ids options).size⟩ ids
      { outcome with dictionary := outcome.dictionary.order ids options.order } := rfl

/-- An id that was not found is kept exactly if such ids are reserved. -/
theorem get?_kept (existing : Dictionary) (ids : List String) (options : MergeOptions) (key : String) :
    (kept existing ids options).get? key =
      if key ∈ ids ∨ options.reserveKeys = true then existing.get? key else none := by
  unfold kept
  by_cases hreserve : options.reserveKeys
  · simp [hreserve]
  · rw [if_neg hreserve, get?_filter]
    by_cases hmem : key ∈ ids
    · cases existing.get? key <;> simp [hmem]
    · cases existing.get? key <;> simp [hmem, hreserve]

/-- Is the value a text that is not empty? -/
def isMessage : Json → Bool
  | .string s => s != ""
  | _ => false

/-- The fallback offers a text that it holds, unless that is empty. -/
theorem fallbackText?_of_isMessage {value : Json} (hheld : fallback.bind (·.get? id) = some value)
    (hvalue : isMessage value = true) : (fallbackText? fallback id).map .string = some value := by
  rw [fallbackText?, hheld]
  cases value with
  | string s => simpa [isMessage, Json.hasText, Json.text?] using hvalue
  | _ => cases hvalue

/-- The fallback offers nothing else. -/
theorem fallbackText?_eq_none (h : ¬(fallback.bind (·.get? id)).any isMessage) : fallbackText? fallback id = none := by
  unfold fallbackText?
  rcases hheld : fallback.bind (·.get? id) with _ | (_ | _ | _ | _ | s | _ | _)
  case some.string =>
    rw [hheld] at h
    simpa [isMessage, Json.hasText, Json.text?] using h
  all_goals rfl

/-- The default message comes before all other candidates, in the default language. -/
theorem candidate?_of_default (h : options.isDefaultLanguage = true ∧ id ∈ defaultMessages.keys) :
    candidate? defaultMessages fallback options id = defaultMessages.get? id := by
  obtain ⟨text, htext⟩ := mem_keys_iff.mp h.2
  rw [candidate?, if_pos h.1, htext]
  rfl

/-- Without a default message the fallback comes before the empty text. -/
theorem candidate?_of_noDefault (h : ¬(options.isDefaultLanguage = true ∧ id ∈ defaultMessages.keys)) :
    candidate? defaultMessages fallback options id =
      (fallbackText? fallback id).or (if options.emptyTags then some "" else none) := by
  have hdefault : (if options.isDefaultLanguage then defaultMessages.get? id else none) = none := by
    split
    · next hlanguage => exact get?_eq_none_iff.mpr fun hmem => h ⟨hlanguage, hmem⟩
    · rfl
  rw [candidate?, hdefault]
  cases fallbackText? fallback id <;> rfl

/-- After a merge the ids that were found are settled; of the others those remain that are reserved. -/
theorem get?_merge (existing : Dictionary) (ids : List String) (defaultMessages : OrderedMap String)
    (fallback : Option Dictionary) (options : MergeOptions) (key : String) :
    (existing.merge ids defaultMessages fallback options).dictionary.get? key =
      if key ∈ ids then settled (candidate? defaultMessages fallback options key) (existing.get? key)
      else if options.reserveKeys then existing.get? key else none := by
  rw [merge_eq]
  simp only [get?_order, get?_mergeIds, get?_kept]
  by_cases hmem : key ∈ ids <;> simp [hmem]

/-- What a merge makes of an id: a value that says something stays. Otherwise an id that was found takes its default message,
in the default language; else a text of the fallback that is not empty; else an empty text, if those are wanted; else it stays
as it was. An id that was not found stays as it was or goes, and no other id comes. -/
theorem get?_merge_precedence (existing : Dictionary) (ids : List String) (defaultMessages : OrderedMap String)
    (fallback : Option Dictionary) (options : MergeOptions) (id : String) :
    (existing.merge ids defaultMessages fallback options).dictionary.get? id =
        (if id ∈ ids then
          if (existing.get? id).any Json.hasText then existing.get? id
          else if options.isDefaultLanguage ∧ id ∈ defaultMessages.keys then (defaultMessages.get? id).map .string
          else if (fallback.bind (·.get? id)).any isMessage then fallback.bind (·.get? id)
          else if options.emptyTags then some (.string "")
          else existing.get? id
        else if options.reserveKeys then existing.get? id
        else none) ∧
      (id ∈ (existing.merge ids defaultMessages fallback options).dictionary.keys → id ∈ existing.keys ∨ id ∈ ids) := by
  have hmerge := get?_merge existing ids defaultMessages fallback options id
  constructor
  · rw [hmerge]
    congr 1
    rw [settled]
    congr 1
    by_cases hdefault : options.isDefaultLanguage = true ∧ id ∈ defaultMessages.keys
    · obtain ⟨text, htext⟩ := mem_keys_iff.mp hdefault.2
      rw [if_pos hdefault, candidate?_of_default hdefault, htext]
      rfl
    · rw [if_neg hdefault, candidate?_of_noDefault hdefault]
      by_cases hfallback : (fallback.bind (·.get? id)).any isMessage
      · cases hheld : fallback.bind (·.get? id) with
        | none => simp [hheld] at hfallback
        | some value =>
          have hvalue : isMessage value = true := by simpa [hheld] using hfallback
          simp [Option.map_or, fallbackText?_of_isMessage hheld hvalue, hvalue]
      · rw [if_neg hfallback, fallbackText?_eq_none hfallback, Option.none_or]
        cases options.emptyTags <;> simp
  · intro hmem
    by_contra hnew
    obtain ⟨hexisting, hfound⟩ := not_or.mp hnew
    rw [mem_keys_iff, hmerge, if_neg hfound, get?_eq_none_iff.mpr hexisting] at hmem
    simp at hmem

end Phrasebook.Dictionary
