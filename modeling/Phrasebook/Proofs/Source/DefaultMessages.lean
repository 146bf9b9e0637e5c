import Mathlib.Data.List.Induction
import Phrasebook.Proofs.Source.Descriptors
import Phrasebook.Proofs.Source.TwoViews

/-!
# Default messages of a scan

All files and rules share one map of default messages, and the last match that gives an id one counts. The map is that of the
pairs in the order of the matches (`defaultMessages_scanTexts`); so what it holds can be read off the matches: the last one for an
id decides, matches without a default message change nothing, and the keys stand in the order of the first ones
(`scanTexts_defaultMessages`).
-/

namespace Phrasebook

namespace OrderedMap

variable {α : Type}

/-- Pairs that come later are put into the map of those in front of them. -/
theorem ofList_append (pairs others : List (String × α)) :
    ofList (pairs ++ others) = others.foldl (fun m (k, v) => m.insert k v) (ofList pairs) := List.foldl_append

/-- The keys stand in the order of their first pairs. -/
theorem keys_ofList (pairs : List (String × α)) : (ofList pairs).keys = (pairs.map Prod.fst).eraseDups := by
  induction pairs using List.reverseRecOn with
  | nil => rfl
  | append_singleton pairs pair ih =>
    have hinsert : ofList (pairs ++ [pair]) = (ofList pairs).insert pair.1 pair.2 := ofList_append pairs [pair]
    rw [hinsert, keys_insert, ih, List.map_append, List.eraseDups_append]
    by_cases h : pair.1 ∈ pairs.map Prod.fst
    · have hnone : [pair.1].removeAll (pairs.map Prod.fst) = [] := by simp [List.removeAll, h]
      rw [if_pos (List.mem_eraseDups.mpr h), List.map_singleton, hnone, List.eraseDups_nil, List.append_nil]
    · have hone : [pair.1].removeAll (pairs.map Prod.fst) = [pair.1] := by simp [List.removeAll, h]
      rw [if_neg (mt List.mem_eraseDups.mp h), List.map_singleton, hone]
      rfl

end OrderedMap

namespace Scan

open Descriptor (Describes IsLast MessageOf)
open Literal (ObjectText)

variable {id text : String} {s : Sighting}

namespace Sighting

/-- The match gives an id a default message: it is one of a descriptor rule, what its first group holds is an object literal with
that id, and the text is the normal form of the literal's last default message. -/
def Gives (s : Sighting) (id text : String) : Prop :=
  s.kind = .descriptor ∧ ∃ fragment entries raw, s.found.group? 1 s.line = some fragment ∧ ObjectText entries fragment ∧
    Describes entries ⟨id, some text⟩ ∧ IsLast "defaultMessage" entries (some (.string raw)) ∧
    text = Template.normalize (String.ofList raw)

/-- The default message that the match gives, with the id to which it gives it. -/
def default? (s : Sighting) : Option (String × String) := s.finding?.bind Finding.defaultMessage?

/-- What gives a message its text is a descriptor that can be read, with a default message. -/
theorem gives_iff : s.Gives id text ↔ s.kind = .descriptor ∧ ∃ fragment, s.found.group? 1 s.line = some fragment ∧
    Descriptor.read (String.ofList fragment) = .ok ⟨id, some text⟩ := by
  simp only [Gives, Descriptor.read_eq_ok_iff, String.toList_ofList]
  constructor
  · rintro ⟨hkind, fragment, entries, -, hfragment, hobject, hdescribes, -, -⟩
    exact ⟨hkind, fragment, hfragment, entries, hobject, hdescribes⟩
  · rintro ⟨hkind, fragment, hfragment, entries, hobject, hdescribes⟩
    obtain ⟨value, hlast, hmessage⟩ := hdescribes.message
    cases hmessage with
    | @text raw hne => exact ⟨hkind, fragment, entries, raw, hfragment, hobject, hdescribes, hlast, rfl⟩

/-- The default message of a match is the one that it gives. -/
theorem default?_eq_some_iff : s.default? = some (id, text) ↔ s.Gives id text := by
  obtain ⟨file, number, line, kind, found⟩ := s
  simp only [gives_iff, default?, finding?, findingOf?, Regex.Match.group?]
  cases found.span? 1 with
  | none => simp
  | some span =>
    cases kind with
    | id =>
      dsimp only
      split <;> simp [Finding.defaultMessage?]
    | descriptor =>
      cases hread : Descriptor.read (String.ofList (Regex.slice line span.1 span.2)) with
      | ok d =>
        obtain ⟨id', message⟩ := d
        cases message <;> simp [hread, Finding.defaultMessage?, occurrenceAt]
      | error cause => simp [hread, Finding.defaultMessage?]

/-- A match that gives an id a default message is an occurrence of that id. -/
theorem exists_occurrence?_of_default? (h : s.default? = some (id, text)) : ∃ o, s.occurrence? = some o ∧ o.id = id := by
  obtain ⟨finding, hfinding, hdefault⟩ := Option.bind_eq_some_iff.mp h
  cases finding with
  | unreadable => cases hdefault
  | message o message =>
    obtain ⟨text', -, heq⟩ := Option.map_eq_some_iff.mp hdefault
    exact ⟨o, by rw [occurrence?, hfinding]; rfl, (Prod.mk.inj heq).1⟩

end Sighting

/-- The default messages that matches give, in the order of the matches. -/
def given (seen : List Sighting) : List (String × String) := seen.filterMap Sighting.default?

/-- The default messages found in a text are given by its matches, in their order. -/
theorem filterMap_findings_defaultMessage? (rules : List Rule) (file content : String) :
    (findings rules file content).filterMap Finding.defaultMessage? = given (sightingsIn rules file content) := by
  rw [findings_eq, List.filterMap_filterMap]
  rfl

/-- The map of all files is built from the findings of the files in their order. -/
theorem defaultMessages_collect (files : List (String × List Finding)) : (collect files).defaultMessages =
    .ofList (files.flatMap fun (_, found) => found.filterMap Finding.defaultMessage?) := by
  induction files using List.reverseRecOn with
  | nil => rfl
  | append_singleton files file ih =>
    rw [collect_concat, List.flatMap_append, List.flatMap_singleton, OrderedMap.ofList_append, ← ih]
    rfl

/-- The default messages of a scan are the map of those that its matches give. -/
theorem defaultMessages_scanTexts (rules : List Rule) (texts : List (String × String)) :
    (scanTexts rules texts).value.defaultMessages = .ofList (given (sightings rules texts)) := by
  rw [value_scanTexts, defaultMessages_collect, List.flatMap_map]
  simp only [filterMap_findings_defaultMessage?]
  rw [given, sightings, List.filterMap_flatMap]
  rfl

/-- What a match gives to one id. -/
theorem filter_default?_eq_some_iff {pair : String × String} :
    s.default?.filter (decide <| ·.1 = id) = some pair ↔ pair.1 = id ∧ s.Gives id pair.2 := by
  obtain ⟨key, text⟩ := pair
  rw [Option.filter_eq_some_iff, decide_eq_true_iff, and_comm]
  exact and_congr_right fun heq => heq ▸ Sighting.default?_eq_some_iff

/-- A match has no default message for an id if it gives it no text. -/
theorem filter_default?_eq_none_iff : s.default?.filter (decide <| ·.1 = id) = none ↔ ∀ text, ¬s.Gives id text := by
  rw [Option.eq_none_iff_forall_ne_some]
  constructor
  · intro h text hgives
    exact h (id, text) (filter_default?_eq_some_iff.mpr ⟨rfl, hgives⟩)
  · intro h pair hpair
    exact h pair.2 (filter_default?_eq_some_iff.mp hpair).2

/-- The last match that gives a key a text decides. -/
theorem get?_ofList_given {seen : List Sighting} : (OrderedMap.ofList (given seen)).get? id = some text ↔
    ∃ front s back, seen = front ++ s :: back ∧ s.Gives id text ∧ ∀ t ∈ back, ∀ other, ¬t.Gives id other := by
  rw [OrderedMap.get?_ofList, given, List.filter_filterMap, List.getLast?_filterMap, Option.map_eq_some_iff]
  simp only [List.findSome?_eq_some_iff, filter_default?_eq_some_iff, filter_default?_eq_none_iff]
  constructor
  · rintro ⟨pair, ⟨back, s, front, hseen, ⟨-, hgives⟩, hback⟩, rfl⟩
    refine ⟨front.reverse, s, back.reverse, ?_, hgives, fun t ht => hback t (List.mem_reverse.mp ht)⟩
    rw [← List.reverse_reverse seen, hseen]
    simp
  · rintro ⟨front, s, back, rfl, hgives, hback⟩
    refine ⟨(id, text), ⟨back.reverse, s, front.reverse, ?_, ⟨rfl, hgives⟩, fun t ht => hback t (List.mem_reverse.mp ht)⟩, rfl⟩
    simp

/-- The keys are the ids that some match gives a text. -/
theorem mem_keys_ofList_given {seen : List Sighting} :
    id ∈ (OrderedMap.ofList (given seen)).keys ↔ ∃ s ∈ seen, ∃ text, s.Gives id text := by
  rw [OrderedMap.keys_ofList, List.mem_eraseDups, List.mem_map]
  constructor
  · rintro ⟨⟨key, text⟩, hmem, rfl⟩
    obtain ⟨s, hs, hdefault⟩ := List.mem_filterMap.mp hmem
    exact ⟨s, hs, text, Sighting.default?_eq_some_iff.mp hdefault⟩
  · rintro ⟨s, hs, text, hgives⟩
    exact ⟨(id, text), List.mem_filterMap.mpr ⟨s, hs, Sighting.default?_eq_some_iff.mpr hgives⟩, rfl⟩

/-- Of a message with an occurrence there is a list. -/
theorem mem_keys_messages {rules : List Rule} {texts : List (String × String)} {o : FileOccurrence}
    (hs : s ∈ sightings rules texts) (ho : s.occurrence? = some o) :
    o.id ∈ (scanTexts rules texts).value.messages.keys := by
  have hlist : o.occurrence ∈ (scanTexts rules texts).value.messages.listAt o.id := by
    rw [value_scanTexts, listAt_messages_collect, flatMap_findings]
    exact List.mem_map_of_mem (List.mem_filter.mpr ⟨List.mem_filterMap.mpr ⟨s, hs, ho⟩, by simp⟩)
  rw [OrderedMap.listAt] at hlist
  rw [OrderedMap.mem_keys_iff]
  cases h : (scanTexts rules texts).value.messages.get? o.id with
  | none => rw [h] at hlist; cases hlist
  | some list => exact ⟨list, rfl⟩

/-- Of the default messages for an id the last counts. After any texts were scanned by any rules, an id has the normal form of the
default message of the last match, in the order of the scan, whose fragment is read with that id and a default message; it has
none if there is no such match; matches behind that one change nothing. The keys stand in the order in which they were first
given a text, and each of them has occurrences. -/
theorem scanTexts_defaultMessages (rules : List Rule) (texts : List (String × String)) :
    let result := (scanTexts rules texts).value
    let seen := sightings rules texts
    (∀ id text, result.defaultMessages.get? id = some text ↔
      ∃ front s back, seen = front ++ s :: back ∧ s.Gives id text ∧ ∀ t ∈ back, ∀ other, ¬t.Gives id other) ∧
    (∀ id, result.defaultMessages.get? id = none ↔ ∀ s ∈ seen, ∀ text, ¬s.Gives id text) ∧
    (∀ s : Sighting, ∀ id text, s.default? = some (id, text) ↔ s.Gives id text) ∧
    result.defaultMessages.keys = ((seen.filterMap Sighting.default?).map Prod.fst).eraseDups ∧
    ∀ id ∈ result.defaultMessages.keys, id ∈ result.messages.keys := by
  intro result seen
  have hmap : result.defaultMessages = .ofList (given seen) := defaultMessages_scanTexts rules texts
  refine ⟨fun id text => by rw [hmap, get?_ofList_given], fun id => ?_, fun s id text => Sighting.default?_eq_some_iff, ?_, ?_⟩
  · rw [hmap, OrderedMap.get?_eq_none_iff, mem_keys_ofList_given]
    simp only [not_exists, not_and]
  · rw [hmap, OrderedMap.keys_ofList, given]
  · intro id hid
    rw [hmap, mem_keys_ofList_given] at hid
    obtain ⟨s, hs, text, hgives⟩ := hid
    obtain ⟨o, ho, rfl⟩ := Sighting.exists_occurrence?_of_default? (Sighting.default?_eq_some_iff.mpr hgives)
    exact mem_keys_messages hs ho

end Scan

end Phrasebook
