import Mathlib.Data.List.Induction
import Phrasebook.Proofs.Dictionary.Maps
import Phrasebook.Source.Scan

/-!
# Collecting what is found

The findings of one file after the other go into two maps of lists. Adding to a list of such a map changes no other list
(`listAt_upsert`) and puts into the map what is added and nothing else (`flatten_values_upsert`). So after a run each list
under an id or a file is what the files added to it, in the order of the files (`listAt_messages_collect`,
`listAt_files_collect`), whatever the findings are.
-/

namespace Phrasebook

namespace OrderedMap

variable {α : Type} {m : OrderedMap (List α)} {key k : String} {added : List α}

/-! ## Maps of lists -/

/-- The list under a key. -/
def listAt (m : OrderedMap (List α)) (key : String) : List α := (m.get? key).getD []

/-- No key has an empty list. -/
def NoneEmpty (m : OrderedMap (List α)) : Prop := ∀ key list, m.get? key = some list → list ≠ []

/-- A map without lists has no empty one. -/
theorem noneEmpty_empty : (empty : OrderedMap (List α)).NoneEmpty := by
  intro key list h
  cases h

/-- What is added to the list under one key is added to no other list. -/
theorem listAt_upsert (m : OrderedMap (List α)) (key : String) (added : List α) (k : String) :
    (m.upsert key [] (· ++ added)).listAt k = m.listAt k ++ if k = key then added else [] := by
  rw [listAt, upsert, get?_insert]
  split
  · next h => rw [h, listAt, Option.getD_some]
  · rw [List.append_nil, listAt]

/-- Adding something leaves no list empty. -/
theorem NoneEmpty.upsert (h : m.NoneEmpty) (hadded : added ≠ []) (key : String) :
    (m.upsert key [] (· ++ added)).NoneEmpty := by
  intro k list hlist
  rw [OrderedMap.upsert, get?_insert] at hlist
  split at hlist
  · rw [← Option.some.inj hlist]
    exact List.append_ne_nil_of_right_ne_nil _ hadded
  · exact h k list hlist

/-- Putting back a list that has grown adds to all lists together what was added to it. -/
theorem flatten_put_of_find {entries : List (String × List α)} {list : List α} (h : find key entries = some list)
    (added : List α) :
    ((put key (list ++ added) entries).map Prod.snd).flatten.Perm ((entries.map Prod.snd).flatten ++ added) := by
  induction entries with
  | nil => cases h
  | cons e rest ih =>
    obtain ⟨k, v⟩ := e
    by_cases hk : k = key
    · rw [find, if_pos hk, Option.some.injEq] at h
      subst h
      simp only [put, if_pos hk, List.map_cons, List.flatten_cons, List.append_assoc]
      exact List.perm_append_comm.append_left v
    · rw [find, if_neg hk] at h
      simp only [put, if_neg hk, List.map_cons, List.flatten_cons, List.append_assoc]
      exact (ih h).append_left v

/-- All lists together get what is added, and nothing else. -/
theorem flatten_values_upsert (m : OrderedMap (List α)) (key : String) (added : List α) :
    (m.upsert key [] (· ++ added)).values.flatten.Perm (m.values.flatten ++ added) := by
  cases h : m.get? key with
  | none =>
    have hput : (m.upsert key [] (· ++ added)).entries = m.entries ++ [(key, added)] := by
      rw [upsert, h]
      exact put_of_not_mem (get?_eq_none_iff.mp h)
    rw [values, hput, List.map_append, List.flatten_append]
    simp [values]
  | some list =>
    have hput : (m.upsert key [] (· ++ added)).entries = put key (list ++ added) m.entries := by rw [upsert, h]; rfl
    rw [values, hput]
    exact flatten_put_of_find h added

end OrderedMap

namespace Scan

open OrderedMap

/-! ## One file -/

/-- The occurrences among findings. -/
def occurrencesOf (found : List Finding) : List FileOccurrence := found.filterMap Finding.occurrence?

/-- Under an id stands what was there, and behind it the occurrences with this id in the order in which they are added.
-/
theorem listAt_foldl_addMessage (occurrences : List FileOccurrence) (messages : OrderedMap (List Occurrence)) (id : String) :
    (occurrences.foldl addMessage messages).listAt id =
      messages.listAt id ++ (occurrences.filter (·.id = id)).map (·.occurrence) := by
  induction occurrences generalizing messages with
  | nil => exact (List.append_nil _).symm
  | cons found rest ih =>
    rw [List.foldl_cons, ih, addMessage, listAt_upsert, List.append_assoc]
    by_cases h : found.id = id
    · rw [if_pos h.symm, List.filter_cons_of_pos (by simpa using h), List.map_cons, List.singleton_append]
    · rw [if_neg (Ne.symm h), List.filter_cons_of_neg (by simpa using h), List.nil_append]

/-- All lists together hold what they held and each occurrence that is added, once. -/
theorem flatten_values_foldl_addMessage (occurrences : List FileOccurrence) (messages : OrderedMap (List Occurrence)) :
    (occurrences.foldl addMessage messages).values.flatten.Perm
      (messages.values.flatten ++ occurrences.map (·.occurrence)) := by
  induction occurrences generalizing messages with
  | nil => rw [List.map_nil, List.append_nil]; exact .refl _
  | cons found rest ih =>
    refine (ih (addMessage messages found)).trans ?_
    rw [List.map_cons, ← List.singleton_append, ← List.append_assoc]
    exact (flatten_values_upsert messages found.id [found.occurrence]).append_right _

/-- An id is put into the map only with an occurrence. -/
theorem noneEmpty_foldl_addMessage {messages : OrderedMap (List Occurrence)} (h : messages.NoneEmpty)
    (occurrences : List FileOccurrence) : (occurrences.foldl addMessage messages).NoneEmpty := by
  induction occurrences generalizing messages with
  | nil => exact h
  | cons found rest ih => exact ih (h.upsert (List.cons_ne_nil _ _) found.id)

/-- Of a file, each id gets its occurrences behind those of the files before. -/
theorem listAt_messages_addFile (result : ScanResult) (file : String) (found : List Finding) (id : String) :
    (addFile result file found).messages.listAt id =
      result.messages.listAt id ++ ((occurrencesOf found).filter (·.id = id)).map (·.occurrence) :=
  listAt_foldl_addMessage (occurrencesOf found) result.messages id

/-- What a file adds to the map by file. Without occurrences it adds no list. -/
theorem files_addFile (result : ScanResult) (file : String) (found : List Finding) :
    (addFile result file found).files =
      if occurrencesOf found = [] then result.files
      else result.files.upsert file [] (· ++ (occurrencesOf found).mergeSort precedes) := by
  by_cases h : occurrencesOf found = []
  · rw [if_pos h]
    exact if_pos (List.isEmpty_iff.mpr h)
  · rw [if_neg h]
    exact if_neg (mt List.isEmpty_iff.mp h)

/-- A file gets all its occurrences in order, and no other file gets any. -/
theorem listAt_files_addFile (result : ScanResult) (file : String) (found : List Finding) (f : String) :
    (addFile result file found).files.listAt f =
      result.files.listAt f ++ if f = file then (occurrencesOf found).mergeSort precedes else [] := by
  rw [files_addFile]
  split
  · next h => rw [h, List.mergeSort_nil, ite_self, List.append_nil]
  · exact listAt_upsert ..

/-- The map of files grows by what was found in the file. -/
theorem flatten_values_files_addFile (result : ScanResult) (file : String) (found : List Finding) :
    (addFile result file found).files.values.flatten.Perm (result.files.values.flatten ++ occurrencesOf found) := by
  rw [files_addFile]
  split
  · next h => rw [h, List.append_nil]
  · exact (flatten_values_upsert ..).trans ((List.mergeSort_perm ..).append_left _)

/-- A file in which nothing was found does not come into the map. -/
theorem noneEmpty_files_addFile {result : ScanResult} (h : result.files.NoneEmpty) (file : String) (found : List Finding) :
    (addFile result file found).files.NoneEmpty := by
  rw [files_addFile]
  split
  · exact h
  · next hne =>
    refine h.upsert (fun hnil => hne ?_) file
    exact List.Perm.eq_nil (hnil ▸ (List.mergeSort_perm (occurrencesOf found) precedes).symm)

/-! ## Files one after the other -/

/-- What is found in files, one after the other. -/
def collect (files : List (String × List Finding)) : ScanResult :=
  files.foldl (fun result (file, found) => addFile result file found) empty

/-- The last file is added to what the others came to. -/
theorem collect_concat (files : List (String × List Finding)) (file : String) (found : List Finding) :
    collect (files ++ [(file, found)]) = addFile (collect files) file found := by
  rw [collect, List.foldl_append]
  rfl

/-- Scanning texts is collecting what is found in each. -/
theorem value_scanTexts (rules : List Rule) (texts : List (String × String)) :
    (scanTexts rules texts).value = collect (texts.map fun (file, content) => (file, findings rules file content)) := by
  have hfoldlM : ∀ result, (texts.foldlM (fun result (file, content) => scanText rules result file content) result).value =
      (texts.map fun (file, content) => (file, findings rules file content)).foldl
        (fun result (file, found) => addFile result file found) result := by
    induction texts with
    | nil => exact fun _ => rfl
    | cons text rest ih => exact fun result => ih (addFile result text.1 (findings rules text.1 text.2))
  exact hfoldlM empty

/-- Under each id stand its occurrences in all files, in the order of the files and in each file in that of its
findings. -/
theorem listAt_messages_collect (files : List (String × List Finding)) (id : String) :
    (collect files).messages.listAt id =
      ((files.flatMap fun (_, found) => occurrencesOf found).filter (·.id = id)).map (·.occurrence) := by
  induction files using List.reverseRecOn with
  | nil => rfl
  | append_singleton files file ih =>
    rw [collect_concat, listAt_messages_addFile, ih, List.flatMap_append, List.filter_append, List.map_append,
      List.flatMap_singleton]

/-- For each file its occurrences stand in the order of their places; a path that is scanned twice has them twice. -/
theorem listAt_files_collect (files : List (String × List Finding)) (file : String) :
    (collect files).files.listAt file =
      (files.filter (·.1 = file)).flatMap fun (_, found) => (occurrencesOf found).mergeSort precedes := by
  induction files using List.reverseRecOn with
  | nil => rfl
  | append_singleton files last ih =>
    rw [collect_concat, listAt_files_addFile, ih, List.filter_append, List.flatMap_append]
    congr 1
    by_cases h : last.1 = file
    · rw [if_pos h.symm, List.filter_cons_of_pos (by simpa using h), List.filter_nil, List.flatMap_singleton]
    · rw [if_neg (Ne.symm h), List.filter_cons_of_neg (by simpa using h), List.filter_nil, List.flatMap_nil]

/-- Every occurrence comes into each of the two maps, and nothing else does. -/
theorem flatten_values_collect (files : List (String × List Finding)) :
    (collect files).messages.values.flatten.Perm
        ((files.flatMap fun (_, found) => occurrencesOf found).map (·.occurrence)) ∧
      (collect files).files.values.flatten.Perm (files.flatMap fun (_, found) => occurrencesOf found) := by
  induction files using List.reverseRecOn with
  | nil => exact ⟨.refl _, .refl _⟩
  | append_singleton files last ih =>
    obtain ⟨hmessages, hfiles⟩ := ih
    rw [collect_concat, List.flatMap_append, List.map_append, List.flatMap_singleton]
    exact ⟨(flatten_values_foldl_addMessage ..).trans (hmessages.append_right _),
      (flatten_values_files_addFile ..).trans (hfiles.append_right _)⟩

/-- No id and no file is there without an occurrence. -/
theorem noneEmpty_collect (files : List (String × List Finding)) :
    (collect files).messages.NoneEmpty ∧ (collect files).files.NoneEmpty := by
  induction files using List.reverseRecOn with
  | nil => exact ⟨noneEmpty_empty, noneEmpty_empty⟩
  | append_singleton files last ih =>
    rw [collect_concat]
    exact ⟨noneEmpty_foldl_addMessage ih.1 _, noneEmpty_files_addFile ih.2 last.1 last.2⟩

/-- Failures are counted over all files. -/
theorem parseFailures_collect (files : List (String × List Finding)) :
    (collect files).parseFailures = (files.flatMap fun (_, found) => found.filterMap Finding.warning?).length := by
  induction files using List.reverseRecOn with
  | nil => rfl
  | append_singleton files last ih =>
    rw [collect_concat, List.flatMap_append, List.length_append, ← ih, List.flatMap_singleton]
    rfl

end Scan

end Phrasebook
