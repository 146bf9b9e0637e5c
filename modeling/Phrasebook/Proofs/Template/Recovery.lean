import Mathlib.Data.List.Nodup
import Phrasebook.Proofs.Template.Segments
import Phrasebook.Proofs.Text.FirstOccurrence

/-!
# Values recovered from a text

What `recover` returns against what filling puts into a template. The texts that it finds are counted and not tied to the
names they stand for, so a text that stands before the first literal can take the place of a value: what is recovered fits
the text exactly where the text begins with the first literal of the template (`fillNames_recover_prefix_iff`). The values
of a filled template are recovered when the texts between its names tell them apart (`get?_recover`).
-/

namespace Phrasebook.Template

open Text

variable {template text : String} {s : List Char} {f : String → List Char}

/-- Values and the texts after them, in turn. -/
def interleave (values later : List (List Char)) : List Char := (values.zip later).flatMap fun (value, text) => value ++ text

/-- What is filled in, in turn with the texts between. -/
theorem flatMap_named (named : List (String × List Char)) :
    (named.flatMap fun (name, text) => f name ++ text) =
      interleave ((named.map Prod.fst).map f) (named.map Prod.snd) := by
  induction named with
  | nil => rfl
  | cons part named ih =>
    rw [List.flatMap_cons, ih]
    rfl

/-! ## What the texts found say about the text -/

/-- The texts found that are not empty: they are taken for the values. -/
def found (segments : Segments) (s : List Char) : List (List Char) :=
  (textsBetween segments s).filter (!·.isEmpty)

/-- In an empty text nothing but empty texts is found. -/
theorem filter_textsBefore_nil (later : List (List Char)) : (textsBefore later []).filter (!·.isEmpty) = [] := by
  induction later with
  | nil => rfl
  | cons segment later ih =>
    rw [textsBefore]
    split
    · rw [List.filter_cons_of_neg (by simp), ih]
    · next hne =>
      have hnone : breakOn? segment [] = none := by
        rw [breakOn?, afterPrefix?_eq_none_iff.mpr, Option.map_none]
        intro h
        exact hne (by rw [List.prefix_nil.mp h]; rfl)
      rw [hnone]
      rfl

/-- There are at most as many texts before the segments as there are segments. -/
theorem length_filter_textsBefore_le (later : List (List Char)) (s : List Char) :
    ((textsBefore later s).filter (!·.isEmpty)).length ≤ later.length := by
  refine Nat.le_trans (List.length_filter_le _ _) ?_
  induction later generalizing s with
  | nil => exact Nat.le_refl _
  | cons segment later ih =>
    rw [textsBefore]
    split
    · exact Nat.succ_le_succ (ih [])
    · split
      · exact Nat.zero_le _
      · next before after _ => exact Nat.succ_le_succ (ih after)

/-- A segment that takes all of the text is the last one if there is a text for every segment. -/
theorem eq_nil_of_length_filter {later : List (List Char)}
    (h : ((s :: textsBefore later []).filter (!·.isEmpty)).length = later.length + 1) : later = [] := by
  apply List.eq_nil_of_length_eq_zero
  have hle : ((s :: textsBefore later []).filter (!·.isEmpty)).length ≤ 1 := by
    rw [List.filter_cons, filter_textsBefore_nil]
    split <;> simp
  omega

/-- No text before a segment is empty if there is a text for every segment. -/
theorem not_isEmpty_of_length_filter {later : List (List Char)} {before : List Char}
    (h : ((before :: textsBefore later s).filter (!·.isEmpty)).length = later.length + 1) : (!before.isEmpty) = true := by
  cases hb : !before.isEmpty with
  | true => rfl
  | false =>
    have hle := length_filter_textsBefore_le later s
    rw [List.filter_cons_of_neg (by simp [hb])] at h
    omega

/-- As many texts as there are segments stand, each with its segment after it, at the front of the text. -/
theorem interleave_textsBefore {later : List (List Char)}
    (h : ((textsBefore later s).filter (!·.isEmpty)).length = later.length) :
    interleave ((textsBefore later s).filter (!·.isEmpty)) later <+: s := by
  induction later generalizing s with
  | nil => exact List.nil_prefix
  | cons segment later ih =>
    rw [textsBefore] at h ⊢
    split at h
    · next hempty =>
      rw [if_pos hempty]
      obtain rfl := eq_nil_of_length_filter h
      rw [List.isEmpty_iff.mp hempty]
      cases s with
      | nil => exact List.nil_prefix
      | cons c s => simp [interleave, textsBefore]
    · next hempty =>
      rw [if_neg hempty]
      split at h
      · cases h
      · next before after hbreak =>
        have hne : (!before.isEmpty) = true := not_isEmpty_of_length_filter h
        rw [List.filter_cons, if_pos hne] at h ⊢
        obtain ⟨rest, hrest⟩ := ih (Nat.succ.inj h)
        -- what is left of the text behind the other segments is left behind all of them
        generalize (textsBefore later after).filter (!·.isEmpty) = values at hrest ⊢
        refine ⟨rest, ?_⟩
        rw [eq_of_breakOn? hbreak, ← hrest]
        simp [interleave]

/-- Behind the first literal, the texts found are those before the other texts of the template. -/
theorem found_append (segments : Segments) (after : List Char) :
    found segments (segments.first ++ after) =
      (textsBefore (segments.named.map Prod.snd) after).filter (!·.isEmpty) := by
  unfold found textsBetween
  split
  · next hempty => rw [List.isEmpty_iff.mp hempty, List.nil_append]
  · next hempty => rw [textsBefore, if_neg hempty, breakOn?_of_prefix, List.filter_cons_of_neg (by simp)]

/-- In a text that begins with the first literal, as many texts as there are names fill the template. -/
theorem interleave_found {segments : Segments} (hfirst : segments.first <+: s)
    (h : (found segments s).length = segments.named.length) :
    segments.first ++ interleave (found segments s) (segments.named.map Prod.snd) <+: s := by
  obtain ⟨after, rfl⟩ := hfirst
  rw [found_append] at h ⊢
  exact List.prefix_append_right_inj _ |>.mpr (interleave_textsBefore (by rw [h, List.length_map]))

/-! ## What is recovered -/

/-- The names of a template with the texts found for them. -/
theorem recover_eq (template text : String) :
    recover template text =
      if (found (segments template.toList) text.toList).length = (segments template.toList).named.length then
        .ofList ((((segments template.toList).named.map Prod.fst).zip (found (segments template.toList) text.toList)).map
          fun (name, value) => (name, .text (String.ofList value)))
      else .empty := by
  unfold recover
  simp only [List.length_map]
  rfl

/-- The value recovered for a name that stands in the template once. -/
theorem shown_recover (hnames : ((segments template.toList).named.map Prod.fst).Nodup)
    (h : (found (segments template.toList) text.toList).length = (segments template.toList).named.length) :
    ((segments template.toList).named.map Prod.fst).map (shown (recover template text)) =
      found (segments template.toList) text.toList := by
  rw [recover_eq, if_pos h]
  generalize segments template.toList = parts at *
  generalize found parts text.toList = values at *
  rw [← List.length_map (f := Prod.fst)] at h
  have hfst := List.map_fst_zip (Nat.le_of_eq h.symm)
  have hsnd := List.map_snd_zip (Nat.le_of_eq h)
  generalize (parts.named.map Prod.fst).zip values = pairs at *
  -- from here on only the pairs matter: their names are distinct, so each name has its own value
  rw [← hfst] at hnames ⊢
  rw [← hsnd, List.map_map]
  apply List.map_congr_left
  intro pair hpair
  have hget : (OrderedMap.ofList (pairs.map fun (name, value) => (name, Value.text (String.ofList value)))).get?
      pair.1 = some (.text (String.ofList pair.2)) := by
    refine OrderedMap.get?_ofList_eq_some ?_ ?_
    · exact List.mem_map.mpr ⟨pair, hpair, rfl⟩
    intro v hv
    obtain ⟨other, hother, heq⟩ := List.mem_map.mp hv
    obtain ⟨hname, rfl⟩ := Prod.mk.inj heq
    rw [List.inj_on_of_nodup_map hnames hother hpair hname]
  simp only [Function.comp_apply, shown, hget, Value.display, String.toList_ofList]

/-- What is recovered stands in the text at the places of its names, behind the first literal of the template, exactly if
the text begins with that literal. A text in front of the literal would be taken for the value of the first name. -/
theorem fillNames_recover_prefix_iff (template text : String)
    (hnames : ((segments template.toList).named.map Prod.fst).Nodup) (hfound : recover template text ≠ .empty) :
    fillNames (shown (recover template text)) template.toList <+: text.toList ↔
      (segments template.toList).first <+: text.toList := by
  have hlength : (found (segments template.toList) text.toList).length = (segments template.toList).named.length := by
    by_contra hne
    rw [recover_eq, if_neg hne] at hfound
    exact hfound rfl
  have hfill : fillNames (shown (recover template text)) template.toList =
      (segments template.toList).first ++ interleave (found (segments template.toList) text.toList)
        ((segments template.toList).named.map Prod.snd) := by
    rw [fillNames, Segments.fillWith, flatMap_named, shown_recover hnames hlength]
  rw [hfill]
  constructor
  · intro h
    exact (List.prefix_append _ _).trans h
  · intro hfirst
    exact interleave_found hfirst hlength

theorem fillNames_recover_prefix_iff_salt :
    ((segments "{a} and {b}.".toList).named.map Prod.fst).Nodup ∧
      recover "{a} and {b}." "salt and pepper and vinegar. Bye." ≠ .empty ∧
      (fillNames (shown (recover "{a} and {b}." "salt and pepper and vinegar. Bye.")) "{a} and {b}.".toList <+:
          "salt and pepper and vinegar. Bye.".toList ↔
        (segments "{a} and {b}.".toList).first <+: "salt and pepper and vinegar. Bye.".toList) := by
  have hnames : ((segments "{a} and {b}.".toList).named.map Prod.fst).Nodup := by decide +kernel
  have hfound : recover "{a} and {b}." "salt and pepper and vinegar. Bye." ≠ .empty := by
    intro h
    have hentries : (recover "{a} and {b}." "salt and pepper and vinegar. Bye.").entries ≠ [] := by decide +kernel
    exact hentries (congrArg OrderedMap.entries h)
  exact ⟨hnames, hfound, fillNames_recover_prefix_iff _ _ hnames hfound⟩

/-- A text that stands before the first literal is recovered as a value, and the template filled with it does not give the
text back. -/
theorem fillNames_recover_prefix_false :
    ((segments "Hello {name}!".toList).named.map Prod.fst).Nodup ∧
      (recover "Hello {name}!" "Oh Hello Jack").entries = [("name", .text "Oh ")] ∧
      ¬fillNames (shown (recover "Hello {name}!" "Oh Hello Jack")) "Hello {name}!".toList <+:
        "Oh Hello Jack".toList := by
  decide +kernel

/-! ## Values that can be told apart -/

/-- Behind each other, the values with the texts after them are cut apart again. -/
theorem textsBefore_flatMap {named : List (String × List Char)}
    (hinner : ∀ text ∈ (named.map Prod.snd).dropLast, text ≠ [])
    (hfirst : ∀ part ∈ named, part.2 ≠ [] → FirstAfter part.2 (f part.1)) :
    textsBefore (named.map Prod.snd) (named.flatMap fun (name, text) => f name ++ text) =
      (named.map Prod.fst).map f := by
  induction named with
  | nil => rfl
  | cons part named ih =>
    obtain ⟨name, text⟩ := part
    rw [List.map_cons, List.flatMap_cons, textsBefore]
    by_cases htext : text = []
    · subst htext
      -- only the last text may be empty
      cases named with
      | nil => simp [textsBefore]
      | cons other named => exact absurd rfl (hinner [] (by simp))
    · rw [if_neg (by simpa using htext), List.append_assoc, breakOn?_append (hfirst _ List.mem_cons_self htext)]
      simp only [List.map_cons]
      rw [ih]
      · intro later hlater
        apply hinner
        cases named with
        | nil => cases hlater
        | cons other named => exact List.mem_cons_of_mem _ hlater
      · intro part hpart
        exact hfirst part (List.mem_cons_of_mem _ hpart)

/-- In a filled template just the values are found, if none of them is empty. -/
theorem found_fillWith {parts : Segments} (hinner : ∀ text ∈ (parts.named.map Prod.snd).dropLast, text ≠ [])
    (hfirst : ∀ part ∈ parts.named, part.2 ≠ [] → FirstAfter part.2 (f part.1))
    (hne : ∀ part ∈ parts.named, f part.1 ≠ []) :
    found parts (parts.fillWith f) = (parts.named.map Prod.fst).map f := by
  rw [Segments.fillWith, found_append, textsBefore_flatMap hinner hfirst, List.map_map, List.filter_eq_self]
  intro value hvalue
  obtain ⟨part, hpart, rfl⟩ := List.mem_map.mp hvalue
  simpa using hne part hpart

/-- The values of a filled template are recovered if they are texts, none of them empty, and the texts between the names
tell them apart. -/
theorem get?_recover {parts : Segments} {values : Variables} (hopen : '{' ∉ parts.first)
    (hnamed : ∀ part ∈ parts.named, IsName part.1 ∧ '{' ∉ part.2)
    (hinner : ∀ text ∈ (parts.named.map Prod.snd).dropLast, text ≠ [])
    (hvalue : ∀ part ∈ parts.named, ∃ t, values.get? part.1 = some (.text t) ∧ t ≠ "")
    (hfirst : ∀ part ∈ parts.named, part.2 ≠ [] → FirstAfter part.2 (shown values part.1))
    (hall : ∀ name value, values.get? name = some value → name ∈ parts.named.map Prod.fst) (name : String) :
    (recover (String.ofList (parts.fillWith bracedName)) (String.ofList (parts.fillWith (shown values)))).get? name =
      values.get? name := by
  have hshown : ∀ part ∈ parts.named, shown values part.1 ≠ [] := by
    intro part hpart
    obtain ⟨t, hget, ht⟩ := hvalue part hpart
    rw [shown, hget]
    exact fun h => ht (String.toList_inj.mp h)
  have hfound := found_fillWith hinner hfirst hshown
  rw [recover_eq, String.toList_ofList, String.toList_ofList, segments_fillWith parts hopen hnamed, hfound,
    if_pos (by simp), ← List.map_prod_left_eq_zip, List.map_map]
  by_cases hname : name ∈ parts.named.map Prod.fst
  · obtain ⟨part, hpart, rfl⟩ := List.mem_map.mp hname
    obtain ⟨t, hget, -⟩ := hvalue part hpart
    rw [hget]
    refine OrderedMap.get?_ofList_eq_some ?_ ?_
    · exact List.mem_map.mpr ⟨part.1, hname, by simp [shown, hget, Value.display]⟩
    · intro v hv
      obtain ⟨n, -, heq⟩ := List.mem_map.mp hv
      obtain ⟨rfl, rfl⟩ := Prod.mk.inj heq
      simp [shown, hget, Value.display]
  · rw [OrderedMap.get?_ofList_eq_none]
    · cases hget : values.get? name with
      | none => rfl
      | some value => exact absurd (hall name value hget) hname
    · rw [List.map_map]
      simpa using hname

end Phrasebook.Template
