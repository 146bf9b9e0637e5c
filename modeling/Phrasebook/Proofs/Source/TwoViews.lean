import Mathlib.Data.List.Forall2
import Mathlib.Data.List.Lemmas
import Mathlib.Data.List.Sort
import Phrasebook.Proofs.Source.Collecting

/-!
# The two maps of a scan

A scan sees one list of matches: text by text, line by line, rule by rule. Each match whose first group takes part is either
a descriptor that cannot be read or an occurrence (`Sighting.takesPart_eq`). The two maps of the result are two views of
these occurrences (`scanTexts_twoViews`): the one by message has them in the order of the scan, the one by file has those
of each text sorted by place, and what both say about a message in a file is the same. Nothing depends on how the rules
match.
-/

namespace Phrasebook

open Regex (Match)

/-! ## The file of a position -/

/-- What stands before the last colon. -/
def beforeLastColon (s : List Char) : List Char := ((s.reverse.dropWhile (· ≠ ':')).drop 1).reverse

/-- What precedes the last colon is kept, other colons in it too. -/
theorem beforeLastColon_append (front : List Char) {last : List Char} (h : ':' ∉ last) :
    beforeLastColon (front ++ ':' :: last) = front := by
  have hlast : ∀ c ∈ last.reverse, decide (c ≠ ':') = true := fun c hc =>
    decide_eq_true fun heq => h (heq ▸ List.mem_reverse.mp hc)
  rw [beforeLastColon, List.reverse_append, List.reverse_cons, List.append_assoc, List.dropWhile_append_of_pos hlast]
  simp

/-- Numbers are written without colons. -/
theorem colon_not_mem_toString (n : Nat) : ':' ∉ (toString n).toList := by
  intro h
  rw [show (toString n).toList = Nat.toDigits 10 n from Nat.toList_repr] at h
  exact absurd (Nat.isDigit_of_mem_toDigits (by decide) (by decide) h) (by decide)

/-- The file in which an occurrence stands, read off its position. -/
def Occurrence.file (o : Occurrence) : String := String.ofList (beforeLastColon (beforeLastColon o.position.toList))

namespace Scan

/-- The name of a file may hold colons; the two last ones of a position are those around the line. -/
theorem beforeLastColon_positionText (file : String) (line before : Nat) :
    beforeLastColon (beforeLastColon (positionText file line before).toList) = file.toList := by
  have hposition : (positionText file line before).toList =
      (file.toList ++ ':' :: (toString line).toList) ++ ':' :: (toString before).toList := by
    simp [positionText, String.toList_append]
  rw [hposition, beforeLastColon_append _ (colon_not_mem_toString before),
    beforeLastColon_append _ (colon_not_mem_toString line)]

/-! ## Matches in the order of the scan -/

/-- A match of a rule in a line of a text. -/
structure Sighting where
  file : String
  /-- The number of the line, from one on. -/
  number : Nat
  line : List Char
  kind : CaptureKind
  found : Match

namespace Sighting

/-- What the match comes to. -/
def finding? (s : Sighting) : Option Finding := findingOf? s.file s.number s.line s.kind s.found

/-- The occurrence of a message that the match is. -/
def occurrence? (s : Sighting) : Option FileOccurrence := s.finding?.bind Finding.occurrence?

/-- Does the first group take part, with some text if it is an id? -/
def takesPart (s : Sighting) : Bool :=
  match s.found.group? 1 s.line, s.kind with
  | none, _ => false
  | some _, .descriptor => true
  | some capture, .id => !capture.isEmpty

/-- Does the first group hold a descriptor that cannot be read? -/
def unreadable (s : Sighting) : Bool :=
  match s.found.group? 1 s.line, s.kind with
  | some capture, .descriptor => !(Descriptor.read (String.ofList capture)).isOk
  | _, _ => false

/-- The ways a match can go. -/
theorem finding?_cases (s : Sighting) :
    s.finding? = none ∧ s.takesPart = false ∧ s.unreadable = false ∨
      (∃ occurrence text, s.finding? = some (.message occurrence text) ∧ s.takesPart = true ∧ s.unreadable = false ∧
        occurrence.occurrence.position = positionText s.file s.number s.found.start) ∨
      ∃ position code cause, s.finding? = some (.unreadable position code cause) ∧ s.takesPart = true ∧
        s.unreadable = true := by
  obtain ⟨file, number, line, kind, found⟩ := s
  simp only [finding?, takesPart, unreadable, findingOf?, Match.group?]
  cases found.span? 1 with
  | none => exact .inl ⟨rfl, rfl, rfl⟩
  | some span =>
    cases kind with
    | id =>
      cases hcapture : (Regex.slice line span.1 span.2).isEmpty with
      | true => exact .inl ⟨by simp [hcapture], by simp [hcapture], rfl⟩
      | false => exact .inr (.inl ⟨_, _, by simp only [hcapture]; rfl, by simp [hcapture], rfl, rfl⟩)
    | descriptor =>
      cases hread : Descriptor.read (String.ofList (Regex.slice line span.1 span.2)) with
      | ok d => exact .inr (.inl ⟨_, _, by simp only [hread]; rfl, rfl, by simp [hread, Except.isOk, Except.toBool], rfl⟩)
      | error cause =>
        exact .inr (.inr ⟨_, _, _, by simp only [hread]; rfl, rfl, by simp [hread, Except.isOk, Except.toBool]⟩)

/-- A match that takes part is either an occurrence or a descriptor that cannot be read, and no other match is any of them. -/
theorem takesPart_eq (s : Sighting) : s.takesPart = (s.unreadable ^^ s.occurrence?.isSome) := by
  rcases s.finding?_cases with ⟨hfinding, htakes, hunreadable⟩ | ⟨_, _, hfinding, htakes, hunreadable, -⟩ |
    ⟨_, _, _, hfinding, htakes, hunreadable⟩ <;> rw [htakes, hunreadable, occurrence?, hfinding] <;> rfl

/-- There is a warning for each match that cannot be read. -/
theorem isSome_warning? (s : Sighting) : (s.finding?.bind Finding.warning?).isSome = s.unreadable := by
  rcases s.finding?_cases with ⟨hfinding, -, hunreadable⟩ | ⟨_, _, hfinding, -, hunreadable, -⟩ |
    ⟨_, _, _, hfinding, -, hunreadable⟩ <;> rw [hunreadable, hfinding] <;> rfl

/-- The position of an occurrence names the file of the match. -/
theorem file_occurrence? {s : Sighting} {o : FileOccurrence} (h : s.occurrence? = some o) : o.occurrence.file = s.file := by
  rcases s.finding?_cases with ⟨hfinding, -⟩ | ⟨occurrence, _, hfinding, -, -, hposition⟩ | ⟨_, _, _, hfinding, -⟩
  · rw [occurrence?, hfinding] at h
    cases h
  · rw [occurrence?, hfinding] at h
    obtain rfl : occurrence = o := Option.some.inj h
    rw [Occurrence.file, hposition, beforeLastColon_positionText, String.ofList_toList]
  · rw [occurrence?, hfinding] at h
    cases h

end Sighting

/-- The matches in a text: line by line, rule by rule, and those of a rule in their order. -/
def sightingsIn (rules : List Rule) (file content : String) : List Sighting :=
  (linesOf content).zipIdx.flatMap fun (line, index) => rules.flatMap fun rule =>
    (rule.matcher.matchesIn line).map fun found => ⟨file, index + 1, line, rule.kind, found⟩

/-- The occurrences in a text, in the order of their matches. -/
def occurrencesIn (rules : List Rule) (file content : String) : List FileOccurrence :=
  (sightingsIn rules file content).filterMap Sighting.occurrence?

/-- The matches in texts, one text after the other. -/
def sightings (rules : List Rule) (texts : List (String × String)) : List Sighting :=
  texts.flatMap fun (file, content) => sightingsIn rules file content

/-- The findings of a text are those of its matches, in their order. -/
theorem findings_eq (rules : List Rule) (file content : String) :
    findings rules file content = (sightingsIn rules file content).filterMap Sighting.finding? := by
  simp only [findings, findingsInLine, sightingsIn, List.filterMap_flatMap, List.filterMap_map]
  rfl

/-- So are its occurrences. -/
theorem occurrencesOf_findings (rules : List Rule) (file content : String) :
    occurrencesOf (findings rules file content) = occurrencesIn rules file content := by
  rw [occurrencesOf, findings_eq, List.filterMap_filterMap]
  rfl

/-- A match knows the file it was seen in. -/
theorem file_of_mem_sightingsIn {rules : List Rule} {file content : String} {s : Sighting}
    (h : s ∈ sightingsIn rules file content) : s.file = file := by
  simp only [sightingsIn, List.mem_flatMap, List.mem_map] at h
  obtain ⟨_, -, _, -, _, -, rfl⟩ := h
  rfl

/-- So does an occurrence. -/
theorem file_of_mem_occurrencesIn {rules : List Rule} {file content : String} {o : FileOccurrence}
    (h : o ∈ occurrencesIn rules file content) : o.occurrence.file = file := by
  obtain ⟨s, hs, ho⟩ := List.mem_filterMap.mp h
  exact (Sighting.file_occurrence? ho).trans (file_of_mem_sightingsIn hs)

/-- The warnings of a scan are those of the descriptors that cannot be read. -/
theorem length_warnings_findings (rules : List Rule) (file content : String) :
    ((findings rules file content).filterMap Finding.warning?).length =
      ((sightingsIn rules file content).filter (·.unreadable)).length := by
  rw [findings_eq, List.filterMap_filterMap, List.length_filterMap_eq_countP, List.countP_eq_length_filter]
  simp only [Sighting.isSome_warning?]

/-- The occurrences of all texts stand text by text. -/
theorem filterMap_sightings (rules : List Rule) (texts : List (String × String)) :
    (sightings rules texts).filterMap Sighting.occurrence? =
      texts.flatMap fun (file, content) => occurrencesIn rules file content := List.filterMap_flatMap

/-! ## Sorting by place -/

/-- A list in the order of places, where what stands at one place keeps its order. -/
structure IsSortedRun (occurrences run : List FileOccurrence) : Prop where
  perm : run.Perm occurrences
  ascending : run.Pairwise fun a b => a.line < b.line ∨ a.line = b.line ∧ a.column ≤ b.column
  stable : ∀ line column, run.filter (fun o => o.line = line ∧ o.column = column) =
    occurrences.filter fun o => o.line = line ∧ o.column = column

/-- Places are compared by line and then by column. -/
theorem precedes_iff {a b : FileOccurrence} :
    precedes a b = true ↔ a.line < b.line ∨ a.line = b.line ∧ a.column ≤ b.column := by
  simp [precedes]

/-- The order of places is transitive. -/
theorem precedes_trans (a b c : FileOccurrence) (hab : precedes a b = true) (hbc : precedes b c = true) :
    precedes a c = true := by
  rw [precedes_iff] at *
  omega

/-- Of two places one precedes the other. -/
theorem precedes_total (a b : FileOccurrence) : (precedes a b || precedes b a) = true := by
  rw [Bool.or_eq_true, precedes_iff, precedes_iff]
  omega

/-- Sorting gives the same occurrences in the order of their places. -/
theorem isSortedRun_mergeSort (occurrences : List FileOccurrence) :
    IsSortedRun occurrences (occurrences.mergeSort precedes) where
  perm := List.mergeSort_perm ..
  ascending := (List.pairwise_mergeSort precedes_trans precedes_total occurrences).imp precedes_iff.mp
  stable line column := by
    -- what stands at one place is in order already, so it is found unchanged in the sorted list
    have hplace : (occurrences.filter fun o => o.line = line ∧ o.column = column).Pairwise (precedes · ·) := by
      refine List.pairwise_of_forall_mem_list fun a ha b hb => precedes_iff.mpr ?_
      have ha' := of_decide_eq_true (List.mem_filter.mp ha).2
      have hb' := of_decide_eq_true (List.mem_filter.mp hb).2
      omega
    have hsub := (List.sublist_mergeSort precedes_trans precedes_total hplace List.filter_sublist).filter
      fun o => decide (o.line = line ∧ o.column = column)
    simp only [List.filter_filter, Bool.and_self] at hsub
    exact (hsub.eq_of_length ((List.mergeSort_perm occurrences precedes).filter _).length_eq.symm).symm

/-! ## The two views -/

/-- What a map by file and one by message say about a message in a file, if one has of each text of the file the sorted
occurrences and the other all of them. -/
theorem perm_views (rules : List Rule) (texts : List (String × String)) (file id : String) :
    ((((texts.filter (·.1 = file)).flatMap fun (file, content) =>
      (occurrencesIn rules file content).mergeSort precedes).filter (·.id = id)).map (·.occurrence)).Perm
      ((((texts.flatMap fun (file, content) => occurrencesIn rules file content).filter (·.id = id)).map
        (·.occurrence)).filter (·.file = file)) := by
  induction texts with
  | nil => exact .refl _
  | cons text rest ih =>
    rw [List.flatMap_cons, List.filter_append, List.map_append, List.filter_append]
    have hall : ∀ o ∈ ((occurrencesIn rules text.1 text.2).filter (·.id = id)).map (·.occurrence), o.file = text.1 := by
      intro o ho
      obtain ⟨found, hfound, rfl⟩ := List.mem_map.mp ho
      exact file_of_mem_occurrencesIn (List.mem_filter.mp hfound).1
    by_cases h : text.1 = file
    · rw [List.filter_cons_of_pos (by simpa using h), List.flatMap_cons, List.filter_append, List.map_append]
      refine List.Perm.append ?_ ih
      rw [List.filter_eq_self.mpr fun o ho => decide_eq_true ((hall o ho).trans h)]
      exact ((List.mergeSort_perm ..).filter _).map _
    · rw [List.filter_cons_of_neg (by simpa using h),
        List.filter_eq_nil_iff.mpr fun o ho heq => h ((hall o ho).symm.trans (of_decide_eq_true heq))]
      exact ih

/-- The occurrences among the findings are those that were seen. -/
theorem flatMap_findings (rules : List Rule) (texts : List (String × String)) :
    ((texts.map fun (file, content) => (file, findings rules file content)).flatMap fun (_, found) =>
      occurrencesOf found) = (sightings rules texts).filterMap Sighting.occurrence? := by
  simp only [List.flatMap_map, occurrencesOf_findings]
  exact (filterMap_sightings rules texts).symm

/-- The two maps of a scan are two views of one list. Every match whose first group takes part counts as a failure or is in
each map once; under a message its occurrences stand in the order of the scan; under a file stand those of each text of this
name, sorted by place, with ties in the order of the scan; both maps say the same about a message in a file; and no list is
empty. -/
theorem scanTexts_twoViews (rules : List Rule) (texts : List (String × String)) :
    let result := (scanTexts rules texts).value
    let seen := sightings rules texts
    let occurrences := seen.filterMap Sighting.occurrence?
    (∀ s ∈ seen, s.takesPart = (s.unreadable ^^ s.occurrence?.isSome)) ∧
    result.parseFailures = (seen.filter (·.unreadable)).length ∧
    result.messages.values.flatten.Perm (occurrences.map (·.occurrence)) ∧
    result.files.values.flatten.Perm occurrences ∧
    (∀ id, result.messages.listAt id = (occurrences.filter (·.id = id)).map (·.occurrence)) ∧
    (∀ file, ∃ runs, result.files.listAt file = runs.flatten ∧
      List.Forall₂ (fun text run => IsSortedRun (occurrencesIn rules text.1 text.2) run) (texts.filter (·.1 = file)) runs) ∧
    (∀ file id, (((result.files.listAt file).filter (·.id = id)).map (·.occurrence)).Perm
      ((result.messages.listAt id).filter (·.file = file))) ∧
    result.messages.NoneEmpty ∧ result.files.NoneEmpty := by
  intro result seen occurrences
  have hresult : result = collect (texts.map fun (file, content) => (file, findings rules file content)) :=
    value_scanTexts rules texts
  have hoccurrences : _ = occurrences := flatMap_findings rules texts
  have hmessages : ∀ id, result.messages.listAt id = (occurrences.filter (·.id = id)).map (·.occurrence) := by
    intro id
    rw [hresult, listAt_messages_collect, hoccurrences]
  have hfiles : ∀ file, result.files.listAt file = (texts.filter (·.1 = file)).flatMap fun (file, content) =>
      (occurrencesIn rules file content).mergeSort precedes := by
    intro file
    rw [hresult, listAt_files_collect, List.filter_map, List.flatMap_map]
    simp only [occurrencesOf_findings]
    rfl
  refine ⟨fun s _ => s.takesPart_eq, ?_, ?_, ?_, hmessages, ?_, ?_, ?_, ?_⟩
  · rw [hresult, parseFailures_collect, List.flatMap_map, List.length_flatMap]
    simp only [length_warnings_findings]
    rw [← List.length_flatMap, ← List.filter_flatMap]
    rfl
  · rw [hresult, ← hoccurrences]
    exact (flatten_values_collect _).1
  · rw [hresult, ← hoccurrences]
    exact (flatten_values_collect _).2
  · intro file
    refine ⟨(texts.filter (·.1 = file)).map fun (file, content) => (occurrencesIn rules file content).mergeSort precedes,
      (hfiles file).trans List.flatMap_def, ?_⟩
    exact List.forall₂_map_right_iff.mpr (List.forall₂_same.mpr fun text _ => isSortedRun_mergeSort _)
  · intro file id
    rw [hfiles, hmessages, show occurrences = _ from filterMap_sightings rules texts]
    exact perm_views rules texts file id
  · rw [hresult]
    exact (noneEmpty_collect _).1
  · rw [hresult]
    exact (noneEmpty_collect _).2

end Scan

end Phrasebook
