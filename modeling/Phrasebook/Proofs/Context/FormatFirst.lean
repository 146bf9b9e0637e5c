import Phrasebook.Proofs.Context.RoundTrip
import Phrasebook.Proofs.Message.Substitution
import Phrasebook.Proofs.Number.Plain

/-!
# Filling before formatting

The placeholders of a template are filled before the formatter reads it, so the formatter sees values where it would have
seen arguments. Its result is the same if the values are plain and are put only where it would have read these arguments
(`value_formatMessage_of_format`). It is not the same where a name in braces is quoted, is the text of a branch or belongs to
the style of a number, where a number sign gets into a plural or nothing comes between two apostrophes, and where a
fallback is used because such a name has no value.
-/

namespace Phrasebook.Context

open Message Template

variable {c : Context} {descriptor : Descriptor} {locale fallback : Option String} {template text : String}
  {values : Variables} {nodes : List Node} {places : List ArgumentPlace}

/-- The text of a number is plain. -/
theorem isPlain_number (x : Number) : IsPlain x.plain.toList := by
  intro d hd
  have hplain := Number.isPlainChar_of_mem_plain hd
  refine ⟨?_, ?_, ?_⟩
  all_goals
    rintro rfl
    cases hplain

/-- A template is formatted alike with its values put in before, if each takes the place of its argument. -/
theorem format_fillNames {localeCode : String}
    (hplain : ∀ name value, values.get? name = some value → IsPlain value.display.toList)
    (hreads : Reads (.nodes .off false false nodes) template.toList [] places)
    (hcovers : Covers values places template.toList [])
    (hformat : Formatter.standard.format template localeCode values = .ok text) :
    Formatter.standard.format (String.ofList (fillNames (shown values) template.toList)) localeCode values = .ok text := by
  obtain ⟨nodes₀, hread, hrender⟩ := format_eq_ok_iff.mp hformat
  obtain rfl : nodes₀ = nodes := Except.ok.inj (hread.symm.trans (read_eq_ok_iff.mpr ⟨places, hreads⟩))
  have hfilled : (Part.nodes .off false false nodes₀).IsFilled localeCode values
      (fillNames (shown values) template.toList) (fillNames (shown values) []) := hreads.isFilled hplain hcovers
  obtain ⟨nodes', places', hreads', hkeeps⟩ := hfilled
  have hread' : read (String.ofList (fillNames (shown values) template.toList)) = .ok nodes' := by
    refine read_eq_ok_iff.mpr ⟨places', ?_⟩
    rwa [fillNames_nil, ← String.toList_ofList (l := fillNames _ _)] at hreads'
  exact format_eq_ok_iff.mpr ⟨nodes', hread', hkeeps none text hrender⟩

/-- A message that the formatter can format by itself comes out like this, provided that the values are plain and each stands
where the formatter reads its argument. -/
theorem value_formatMessage_of_format (hformatter : c.formatter = .standard)
    (htemplate : c.lookup descriptor.id locale = some template) (hne : template ≠ "")
    (hreference : NoReference template.toList)
    (hplain : ∀ name t, values.get? name = some (.text t) → IsPlain t.toList)
    (hreads : Reads (.nodes .off false false nodes) template.toList [] places)
    (hcovers : Covers values places template.toList [])
    (hfallback : fallback = none ∨ ∀ name ∈ (segments template.toList).named.map Prod.fst, values.get? name ≠ none)
    (hformat : c.formatter.format template (c.localeOf locale) values = .ok text) :
    (c.formatMessage descriptor (some values) locale fallback).value = text := by
  have hdisplay : ∀ name value, values.get? name = some value → IsPlain value.display.toList := by
    intro name value hvalue
    cases value with
    | text t => exact hplain name t hvalue
    | number x => exact isPlain_number x
  rw [value_formatMessage htemplate hne, value_fill_of_noReference hreference hfallback]
  apply value_present_of_ok
  rw [hformatter] at hformat ⊢
  exact format_fillNames hdisplay hreads hcovers hformat

namespace FormatFirstWitness

/-- A plural with an argument in its branch. -/
def parcels : String := "\x7bn, plural, other \x7b{name}: #\x7d\x7d"

/-- Where the arguments begin. -/
def parcelPlaces : List ArgumentPlace :=
  [⟨false, .off, "n, plural, other \x7b{name}: #\x7d\x7d".toList⟩, ⟨true, .off, "name\x7d: #\x7d\x7d".toList⟩]

/-- The template is read, with its arguments at these places. -/
theorem reads_parcels : ∃ nodes, Reads (.nodes .off false false nodes) parcels.toList [] parcelPlaces := by
  have hpound : Reads (.nodes .off true true [.pound]) "#\x7d\x7d".toList "\x7d\x7d".toList [] :=
    .pound rfl (.closed rfl)
  have htext := reads_append_off (show IsPlain ": ".toList by decide) (by decide) hpound
  have hname : ReadsHead (.argument "name") "name\x7d: #\x7d\x7d".toList ": #\x7d\x7d".toList :=
    .argument (by decide) (by decide : Blanks []) (by decide : Blanks [])
  have hkind : KindText "n" "plural" "n, plural".toList :=
    .mk (by decide) (by decide : Blanks []) (by decide : Blanks []) (by decide : Blanks [' ']) (by decide : Blanks [])
  have hhead : ReadsHead (.plural "n" (Number.zero false)) "n, plural, other \x7b{name}: #\x7d\x7d".toList
      "other \x7b{name}: #\x7d\x7d".toList :=
    .plural hkind (by decide : Blanks [' ']) (stops_cons (by decide)) (by decide)
  have hkey : KeyText "other" "other \x7b".toList := .mk (by decide : Blanks []) (by decide) (by decide : Blanks [' '])
  have hbody : Reads (.nodes .off true true _) "{name}: #\x7d\x7d".toList "\x7d\x7d".toList _ :=
    .argument rfl (.value hname) htext
  have hbranches : Reads (.pluralBranches _) "other \x7b{name}: #\x7d\x7d".toList [] _ :=
    .pluralBranch hkey rfl hbody (.pluralEnd (by decide : Blanks []))
  exact ⟨_, .argument rfl (.plural hhead hbranches rfl) .done⟩

def parcelValues : Variables := .ofList [("n", .text "2"), ("name", .text "Jack")]

/-- Templates in which a value stands for something else than an argument, or changes what stands around it. -/
def station : Context :=
  .ofCatalogue ⟨.ofList [("en", .ofList [("parcels", parcels), ("quoted", "'{name}'"),
    ("branch", "\x7bn, plural, other {name}\x7d"), ("style", "\x7bn, number, {name}"),
    ("apart", "'\x7b'{name}'\x7d'")])]⟩ "en"

/-- What the formatter makes of the template of an id, and the message of the id. -/
def formattedAndMessage (id : String) (values : Variables) (fallback : Option String) : Option String × String :=
  (((station.lookup id none).bind fun template => (station.formatter.format template "en" values).toOption),
    (station.formatMessage ⟨id, none⟩ (some values) none fallback).value)

end FormatFirstWitness

open FormatFirstWitness in
theorem value_formatMessage_of_format_parcels :
    (station.formatMessage ⟨"parcels", none⟩ (some parcelValues) none (some "-")).value = "Jack: 2" := by
  obtain ⟨nodes, hreads⟩ := reads_parcels
  have htemplate : station.lookup (Descriptor.mk "parcels" none).id none = some parcels := by decide +kernel
  have hreference : NoReference parcels.toList := by decide +kernel
  have hplain : ∀ name t, parcelValues.get? name = some (.text t) → IsPlain t.toList := by
    intro name t h
    have hentries : parcelValues.entries = [("n", .text "2"), ("name", .text "Jack")] := by decide +kernel
    have hmem := OrderedMap.get?_eq_some_iff.mp h
    simp only [hentries, List.mem_cons, List.not_mem_nil, or_false, Prod.mk.injEq, Value.text.injEq] at hmem
    rcases hmem with ⟨-, rfl⟩ | ⟨-, rfl⟩
    · decide
    · decide
  have hcovers : Covers parcelValues parcelPlaces parcels.toList [] := by decide +kernel
  have hnames : ∀ name ∈ (segments parcels.toList).named.map Prod.fst, parcelValues.get? name ≠ none := by decide +kernel
  have hformat : station.formatter.format parcels (station.localeOf none) parcelValues = .ok "Jack: 2" := by
    decide +kernel
  exact value_formatMessage_of_format rfl htemplate (by decide) hreference hplain hreads hcovers (.inr hnames) hformat

open FormatFirstWitness in
/-- Plain values change the result where they stand in a quote, for the text of a branch or in the style of a number; with a
number sign in a plural; empty between two apostrophes; and by their absence, where there is a fallback. -/
theorem value_formatMessage_of_format_false :
    formattedAndMessage "quoted" (.ofList [("name", .text "Jack")]) none = (some "{name}", "'Jack'") ∧
      formattedAndMessage "branch" (.ofList [("n", .text "2"), ("name", .text "Jack")]) none =
        (some "name", "\x7bn, plural, other Jack\x7d") ∧
      formattedAndMessage "style" (.ofList [("n", .text "2"), ("name", .text "Jack")]) none =
        (some "2", "\x7bn, number, Jack") ∧
      formattedAndMessage "parcels" (.ofList [("n", .text "2"), ("name", .text "#7")]) none = (some "#7: 2", "27: 2") ∧
      formattedAndMessage "apart" (.ofList [("name", .text "")]) none = (some "\x7b\x7d", "\x7b'\x7d") ∧
      formattedAndMessage "branch" (.ofList [("n", .text "2")]) (some "-") = (some "name", "-") := by
  decide +kernel

end Phrasebook.Context
