import Phrasebook.Proofs.Regex.Places
import Phrasebook.Proofs.Source.TwoViews
import Phrasebook.Proofs.Text.Splitting

/-!
# Positions

An occurrence says where its code stands. Its line is one of the content (`isLine_of_mem_linesOf`), the match lies in the line,
and the first group lies in the match; so the code stands where the position says, and for a descriptor it ends where the fragment
ends that was read (`scanText_position`). This holds of every rule, since no search leaves the line.
-/

namespace Phrasebook.Scan

open Regex (Match slice liesIn_of_mem_matchesIn)
open OrderedMap (listAt listAt_upsert)

variable {content file : String} {n : Nat} {line s : List Char} {rules : List Rule} {rule : Rule} {o : FileOccurrence}

/-! ## Lines -/

/-- The line of a number from one on: what stands between two line feeds or ends of the content, without a carriage return
at its end. -/
def IsLine (content : String) (number : Nat) (line : List Char) : Prop :=
  ∃ index raw, number = index + 1 ∧ Text.IsPiece '\n' index raw content.toList ∧
    (raw = line ++ ['\r'] ∨ raw = line ∧ raw.getLast? ≠ some '\r')

theorem withoutReturn_iff {raw line : List Char} : (if raw.getLast? = some '\r' then raw.dropLast else raw) = line ↔
    raw = line ++ ['\r'] ∨ raw = line ∧ raw.getLast? ≠ some '\r' := by
  split
  · next h =>
    obtain ⟨front, rfl⟩ := List.getLast?_eq_some_iff.mp h
    simp
  · next h =>
    refine ⟨fun heq => .inr ⟨heq, h⟩, ?_⟩
    rintro (rfl | ⟨heq, -⟩)
    · simp at h
    · exact heq

/-- The lines of a content are those between its line feeds. -/
theorem mem_zipIdx_linesOf_iff : (line, n) ∈ (linesOf content).zipIdx ↔ IsLine content (n + 1) line := by
  rw [List.mk_mem_zipIdx_iff_getElem?, linesOf, List.getElem?_map, Option.map_eq_some_iff]
  simp only [Text.getElem?_splitAt_iff, withoutReturn_iff]
  constructor
  · rintro ⟨raw, hpiece, hraw⟩
    exact ⟨n, raw, rfl, hpiece, hraw⟩
  · rintro ⟨index, raw, hn, hpiece, hraw⟩
    obtain rfl : n = index := Nat.succ.inj hn
    exact ⟨raw, hpiece, hraw⟩

/-- There are as many lines as line feeds, and one more. -/
theorem IsLine.number_le (h : IsLine content n line) : 1 ≤ n ∧ n ≤ content.toList.count '\n' + 1 := by
  obtain ⟨index, raw, rfl, ⟨before, after, hcontent, -, -, -, rfl⟩, -⟩ := h
  rw [hcontent, List.count_append]
  omega

/-! ## Slices -/

/-- A slice of a text stands where it begins. -/
theorem eq_append_slice {start stop : Nat} (hle : start ≤ stop) (hstop : stop ≤ s.length) :
    s = s.take start ++ slice s start stop ++ s.drop stop ∧ (s.take start).length = start ∧
      (slice s start stop).length = stop - start := by
  have hslice : slice s start stop ++ s.drop stop = s.drop start := by
    have hdrop : s.drop stop = (s.drop start).drop (stop - start) := by
      rw [List.drop_drop, Nat.add_sub_cancel' hle]
    rw [hdrop, slice, List.take_append_drop]
  refine ⟨by rw [List.append_assoc, hslice, List.take_append_drop], ?_, ?_⟩
  · rw [List.length_take]
    omega
  · rw [slice, List.length_take, List.length_drop]
    omega

/-! ## What is recorded -/

/-- The code of an occurrence in a file stands at its line and column, and its position says the same; the code of a descriptor
ends where the fragment ends. -/
structure PointsAt (rule : Rule) (file content : String) (o : FileOccurrence) (line : List Char) (found : Match) : Prop where
  isLine : IsLine content o.line line
  number : 1 ≤ o.line ∧ o.line ≤ content.toList.count '\n' + 1
  match_mem : found ∈ rule.matcher.matchesIn line
  column : o.column = found.start + 1
  code : ∃ front back, line = front ++ o.occurrence.code.toList ++ back ∧ front.length = o.column - 1
  position : o.occurrence.position = file ++ ":" ++ toString o.line ++ ":" ++ toString (o.column - 1)
  fragment : rule.kind = .descriptor → ∃ front fragment back defaultMessage, found.group? 1 line = some fragment ∧
    line = front ++ fragment ++ back ∧ Descriptor.read (String.ofList fragment) = .ok ⟨o.id, defaultMessage⟩ ∧
    front.length + fragment.length = o.column - 1 + o.occurrence.code.toList.length

theorem pointsAt_of_finding {found : Match} {defaultMessage : Option String} (hline : IsLine content n line)
    (hfound : found ∈ rule.matcher.matchesIn line)
    (h : findingOf? file n line rule.kind found = some (.message o defaultMessage)) :
    PointsAt rule file content o line found := by
  have hlies := liesIn_of_mem_matchesIn hfound
  unfold findingOf? at h
  split at h
  · cases h
  · next start stop hspan =>
    obtain ⟨hstart, hle, hstop⟩ := hlies.span 1 start stop hspan
    -- the code goes from where the match begins to `last`
    have hpoint : ∀ (id : String) (last : Nat), found.start ≤ last → last ≤ line.length →
        o = occurrenceAt file n line found id last →
        (rule.kind = .descriptor → last = stop ∧ Descriptor.read (String.ofList (slice line start stop)) =
          .ok ⟨id, defaultMessage⟩) → PointsAt rule file content o line found := by
      rintro id last hlast hlength rfl hkind
      obtain ⟨hcode, hfront, hcodeLength⟩ := eq_append_slice hlast hlength
      refine ⟨hline, hline.number_le, hfound, rfl, ⟨line.take found.start, line.drop last, ?_, hfront⟩, rfl, fun hdescriptor => ?_⟩
      · simpa [occurrenceAt] using hcode
      · obtain ⟨rfl, hread⟩ := hkind hdescriptor
        obtain ⟨hfragment, hbefore, hfragmentLength⟩ := eq_append_slice hle hlength
        refine ⟨line.take start, slice line start last, line.drop last, defaultMessage, by rw [Match.group?, hspan]; rfl, hfragment,
          hread, ?_⟩
        simp only [occurrenceAt, String.toList_ofList, hbefore, hfragmentLength, hcodeLength]
        omega
    dsimp only at h
    split at h
    · split at h
      · cases h
      · obtain ⟨rfl, rfl⟩ := Finding.message.inj (Option.some.inj h)
        next hkind _ =>
        exact hpoint _ _ hlies.start_le hlies.stop_le rfl fun hdescriptor => by rw [hkind] at hdescriptor; cases hdescriptor
    · split at h
      · next d hread =>
        obtain ⟨rfl, rfl⟩ := Finding.message.inj (Option.some.inj h)
        exact hpoint _ _ (Nat.le_trans hstart hle) (Nat.le_trans hstop hlies.stop_le) rfl fun _ => ⟨rfl, hread⟩
      · cases h

/-- An occurrence in a text is a match of some rule in some line, and points at it. -/
theorem exists_pointsAt (h : o ∈ occurrencesIn rules file content) :
    ∃ rule ∈ rules, ∃ line found, PointsAt rule file content o line found := by
  obtain ⟨s, hs, ho⟩ := List.mem_filterMap.mp h
  simp only [sightingsIn, List.mem_flatMap, List.mem_map] at hs
  obtain ⟨⟨line, index⟩, hline, rule, hrule, found, hfound, rfl⟩ := hs
  obtain ⟨finding, hfinding, hoccurrence⟩ := Option.bind_eq_some_iff.mp ho
  cases finding with
  | unreadable => cases hoccurrence
  | message o' defaultMessage =>
    obtain rfl := Option.some.inj hoccurrence
    exact ⟨rule, hrule, line, found, pointsAt_of_finding (mem_zipIdx_linesOf_iff.mp hline) hfound hfinding⟩

/-- Every recorded position points at its code. Whatever was found before, scanning a text adds some occurrences to the list under
its file and to no other list of a file; it adds the same ones to the lists under their messages; and each of them is a match of
some rule in some line of the text, with its code where line, column and position say. -/
theorem scanText_position (rules : List Rule) (result : ScanResult) (file content : String) :
    let after := (scanText rules result file content).value
    ∃ recorded : List FileOccurrence,
      (∀ f, after.files.listAt f = result.files.listAt f ++ if f = file then recorded else []) ∧
      (∀ id, (after.messages.listAt id).Perm
        (result.messages.listAt id ++ (recorded.filter (·.id = id)).map (·.occurrence))) ∧
      ∀ o ∈ recorded, ∃ rule ∈ rules, ∃ line found, PointsAt rule file content o line found := by
  intro after
  have hafter : after = addFile result file (findings rules file content) := rfl
  refine ⟨(occurrencesIn rules file content).mergeSort precedes, fun f => ?_, fun id => ?_, fun o ho => ?_⟩
  · rw [hafter, listAt_files_addFile, occurrencesOf_findings]
  · rw [hafter, listAt_messages_addFile, occurrencesOf_findings]
    exact (((List.mergeSort_perm ..).filter _).map _).symm.append_left _
  · exact exists_pointsAt ((List.mergeSort_perm ..).mem_iff.mp ho)

end Phrasebook.Scan
