import Phrasebook.Catalogue.Basic
import Phrasebook.Proofs.Dictionary.Maps

/-!
# Gaps filled from several locales

Filling gaps from a locale does one thing to an id: if the locale has a text for it, every gap of the id is closed with that
text (`lookup_fillGaps_eq`). So in a run of fills only the first one that finds a text for an id does anything to it
(`lookup_fillAll_cases`): whatever locales follow, no gap is left that they could fill, and no text gets a second name in
front. From this follows what a run keeps and where its texts come from (`fillAll_steady`).
-/

namespace Phrasebook

namespace OrderedMap

variable {α β γ : Type}

/-- Changing all values twice is changing them once. -/
theorem mapValues_mapValues (f : String → α → β) (g : String → β → γ) (m : OrderedMap α) :
    (m.mapValues f).mapValues g = m.mapValues fun key value => g key (f key value) :=
  ext_entries (List.map_map ..)

end OrderedMap

namespace Catalogue

/-! ## One fill -/

theorem filling_ne_empty (source template : String) : filling source template ≠ "" := by
  intro h
  have hnil := congrArg String.toList h
  simp [filling] at hnil

/-- A template where a gap is closed with a text from a locale. -/
def closeGap (origin text template : String) : String := if template = "" then filling origin text else template

theorem closeGap_ne_empty (origin text template : String) : closeGap origin text template ≠ "" := by
  unfold closeGap
  split
  · exact filling_ne_empty origin text
  · assumption

/-- Without a text for the id, every template stays. -/
theorem fillTemplate_of_gap {source id : String} {defaults : Templates} (hid : defaults.get? id = none ∨ defaults.get? id = some "")
    (template : String) : fillTemplate source defaults id template = template := by
  rcases hid with hid | hid <;> simp [fillTemplate, hid]

/-- Filling from a locale that has a text for an id closes all gaps of the id with it, and any other fill leaves the id alone. -/
theorem lookup_fillGaps_eq (c : Catalogue) (source id locale : String) : (c.fillGaps source).lookup id locale =
    match c.lookup id source with
    | some text => if text = "" then c.lookup id locale else (c.lookup id locale).map (closeGap source text)
    | none => c.lookup id locale := by
  cases hdefaults : c.locales.get? source with
  | none =>
    have hnone : c.lookup id source = none := by rw [lookup, hdefaults, Option.bind_none]
    rw [hnone, fillGaps, hdefaults]
  | some defaults =>
    have hsource : c.lookup id source = defaults.get? id := by rw [lookup, hdefaults, Option.bind_some]
    have hfill : (c.fillGaps source).lookup id locale = (c.locales.get? locale).bind fun templates =>
        if locale = source then templates.get? id else (templates.get? id).map (fillTemplate source defaults id) := by
      simp only [fillGaps, lookup, hdefaults, OrderedMap.get?_mapValues, Option.bind_map]
      refine Option.bind_congr fun templates _ => ?_
      show (if locale = source then templates else _).get? id = _
      split
      · rfl
      · rw [OrderedMap.get?_mapValues]
    rw [hfill, hsource, lookup]
    cases htemplates : c.locales.get? locale with
    | none => cases defaults.get? id <;> simp
    | some templates =>
      by_cases hlocale : locale = source
      · -- the locale itself has no gap for the id if it has a text for it
        subst hlocale
        obtain rfl : defaults = templates := Option.some.inj (hdefaults.symm.trans htemplates)
        cases hid : defaults.get? id with
        | none => simp [hid]
        | some text => by_cases htext : text = "" <;> simp [hid, htext, closeGap]
      · simp only [Option.bind_some, if_neg hlocale]
        have hidle : defaults.get? id = none ∨ defaults.get? id = some "" →
            (templates.get? id).map (fillTemplate source defaults id) = templates.get? id := by
          intro hid
          rw [funext (fillTemplate_of_gap hid)]
          exact Option.map_id'
        cases hid : defaults.get? id with
        | none => exact hidle (.inl hid)
        | some text =>
          by_cases htext : text = ""
          · subst htext
            exact hidle (.inr hid)
          · simp only [htext, if_false]
            congr 1
            funext template
            simp [fillTemplate, closeGap, hid, htext]

/-- Filling from one locale twice is filling from it once. -/
theorem fillGaps_fillGaps (c : Catalogue) (source : String) : (c.fillGaps source).fillGaps source = c.fillGaps source := by
  cases hdefaults : c.locales.get? source with
  | none => simp only [fillGaps, hdefaults]
  | some defaults =>
    have hagain : ((c.fillGaps source).locales.get? source) = some defaults := by
      simp [fillGaps, hdefaults, OrderedMap.get?_mapValues]
    have hsettled : ∀ id template,
        fillTemplate source defaults id (fillTemplate source defaults id template) = fillTemplate source defaults id template := by
      intro id template
      by_cases htemplate : template = ""
      · cases hid : defaults.get? id with
        | none => simp [fillTemplate, hid]
        | some text => by_cases htext : text = "" <;> simp [fillTemplate, hid, htext, htemplate, filling_ne_empty]
      · simp [fillTemplate, htemplate]
    rw [fillGaps, hagain]
    simp only [fillGaps, hdefaults, OrderedMap.mapValues_mapValues]
    congr 2
    funext locale templates
    split
    · rfl
    · rw [OrderedMap.mapValues_mapValues]
      simp only [hsettled]

/-! ## A run of fills -/

/-- The catalogue after gaps have been filled from one locale after the other. -/
def fillAll (c : Catalogue) (sources : List String) : Catalogue := sources.foldl fillGaps c

theorem fillAll_append (c : Catalogue) (sources later : List String) :
    c.fillAll (sources ++ later) = (c.fillAll sources).fillAll later := List.foldl_append

/-- The ids of a locale in their order. -/
def idsOf? (c : Catalogue) (locale : String) : Option (List String) := (c.locales.get? locale).map OrderedMap.keys

theorem keys_fillGaps (c : Catalogue) (source : String) : (c.fillGaps source).locales.keys = c.locales.keys := by
  unfold fillGaps
  split
  · rfl
  · exact OrderedMap.keys_mapValues ..

theorem idsOf?_fillGaps (c : Catalogue) (source locale : String) : (c.fillGaps source).idsOf? locale = c.idsOf? locale := by
  unfold fillGaps
  split
  · rfl
  · simp only [idsOf?, OrderedMap.get?_mapValues, Option.map_map]
    congr 1
    funext templates
    show OrderedMap.keys (if locale = source then templates else _) = templates.keys
    split
    · rfl
    · exact OrderedMap.keys_mapValues ..

/-- The locales and the ids of each keep their order in a run of fills. -/
theorem order_fillAll (c : Catalogue) (sources : List String) :
    (c.fillAll sources).locales.keys = c.locales.keys ∧ ∀ locale, (c.fillAll sources).idsOf? locale = c.idsOf? locale := by
  induction sources generalizing c with
  | nil => exact ⟨rfl, fun _ => rfl⟩
  | cons source sources ih =>
    obtain ⟨hkeys, hids⟩ := ih (c.fillGaps source)
    exact ⟨hkeys.trans (keys_fillGaps c source), fun locale => (hids locale).trans (idsOf?_fillGaps c source locale)⟩

/-- What a run of fills comes to for an id: nothing, or all its gaps are closed with the text of one locale. -/
theorem lookup_fillAll_cases (c : Catalogue) (sources : List String) (id : String) :
    (∀ locale, (c.fillAll sources).lookup id locale = c.lookup id locale) ∨
      ∃ origin text, text ≠ "" ∧ c.lookup id origin = some text ∧
        ∀ locale, (c.fillAll sources).lookup id locale = (c.lookup id locale).map (closeGap origin text) := by
  induction sources generalizing c with
  | nil => exact .inl fun _ => rfl
  | cons source sources ih =>
    have hstep := lookup_fillGaps_eq c source id
    have hidle : (∀ locale, (c.fillGaps source).lookup id locale = c.lookup id locale) →
        (∀ locale, (c.fillAll (source :: sources)).lookup id locale = c.lookup id locale) ∨
          ∃ origin text, text ≠ "" ∧ c.lookup id origin = some text ∧
            ∀ locale, (c.fillAll (source :: sources)).lookup id locale = (c.lookup id locale).map (closeGap origin text) := by
      intro hsame
      have hrest := ih (c.fillGaps source)
      simp only [hsame] at hrest
      exact hrest
    cases hsource : c.lookup id source with
    | none => exact hidle fun locale => by rw [hstep, hsource]
    | some text =>
      by_cases htext : text = ""
      · exact hidle fun locale => by rw [hstep, hsource]; exact if_pos htext
      · -- no gap of the id is left for the fills that follow
        have hclosed : ∀ locale, (c.fillGaps source).lookup id locale = (c.lookup id locale).map (closeGap source text) :=
          fun locale => by rw [hstep, hsource]; exact if_neg htext
        refine .inr ⟨source, text, htext, hsource, fun locale => ?_⟩
        rcases ih (c.fillGaps source) with hrest | ⟨origin, text', -, -, hrest⟩
        · exact (hrest locale).trans (hclosed locale)
        · refine (hrest locale).trans ?_
          rw [hclosed, Option.map_map]
          congr 1
          funext template
          exact if_neg (closeGap_ne_empty source text template)

/-- What a run of fills keeps, and where its texts come from. The locales and the ids of each stay as they are and in their
order; a text stays as it is in whatever fills follow; a text that was not there before is the name of another locale in
brackets and the text that this locale had from the start, so that names do not pile up; and filling from the locale of the
last fill again changes nothing. -/
theorem fillAll_steady (c : Catalogue) (sources : List String) :
    (c.fillAll sources).locales.keys = c.locales.keys ∧
    (∀ locale, (c.fillAll sources).idsOf? locale = c.idsOf? locale) ∧
    (∀ later id locale text, (c.fillAll sources).lookup id locale = some text → text ≠ "" →
      (c.fillAll (sources ++ later)).lookup id locale = some text) ∧
    (∀ id locale text, c.lookup id locale = some "" → (c.fillAll sources).lookup id locale = some text → text ≠ "" →
      ∃ origin template, text = "[" ++ origin ++ "]" ++ template ∧ origin ≠ locale ∧
        c.lookup id origin = some template ∧ template ≠ "") ∧
    ∀ source, c.fillAll (sources ++ [source, source]) = c.fillAll (sources ++ [source]) := by
  refine ⟨(order_fillAll c sources).1, (order_fillAll c sources).2, ?_, ?_, ?_⟩
  · intro later id locale text htext hne
    rw [fillAll_append]
    rcases lookup_fillAll_cases (c.fillAll sources) later id with hsame | ⟨origin, other, -, -, hclosed⟩
    · rw [hsame, htext]
    · rw [hclosed, htext, Option.map_some, closeGap, if_neg hne]
  · intro id locale text hgap htext hne
    rcases lookup_fillAll_cases c sources id with hsame | ⟨origin, template, htemplate, horigin, hclosed⟩
    · rw [hsame, hgap] at htext
      exact absurd (Option.some.inj htext).symm hne
    · refine ⟨origin, template, ?_, ?_, horigin, htemplate⟩
      · rw [hclosed, hgap] at htext
        exact (Option.some.inj htext).symm
      · rintro rfl
        exact htemplate (Option.some.inj (horigin.symm.trans hgap))
  · intro source
    rw [fillAll_append, fillAll_append]
    exact fillGaps_fillGaps (c.fillAll sources) source

end Catalogue

end Phrasebook
