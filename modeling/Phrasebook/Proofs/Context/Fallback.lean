import Phrasebook.Proofs.Context.Replacing
import Phrasebook.Proofs.Context.RoundTrip

/-!
# The fallback of a caller

A fallback is used where there is no template, and there it is the message. It is used as well in place of a template that lacks
a name, but there it takes the place of the filled template and goes on to the formatter: it is the message only if the
formatter refuses it or makes it of itself (`value_formatMessage_fallback`). An apostrophe written twice is lost on this way,
and an argument in braces is filled.
-/

namespace Phrasebook.Context

open Message Template

variable {c : Context} {descriptor : Descriptor} {locale : Option String} {values : Option Variables} {template text : String}
  {parts : List Piece} {resolve : Variables → List Fragment → Logged (Option String)}

/-! ## Templates -/

/-- Neither the catalogue nor the descriptor has a template that is not empty. -/
def HasNoTemplate (c : Context) (locale : Option String) (descriptor : Descriptor) : Prop :=
  ∀ t, c.lookup descriptor.id locale = some t ∨ descriptor.defaultMessage = some t → t = ""

/-- The template is not empty, and it is that of the catalogue, or that of the descriptor where the catalogue has none. -/
def HasTemplate (c : Context) (locale : Option String) (descriptor : Descriptor) (template : String) : Prop :=
  template ≠ "" ∧ (c.lookup descriptor.id locale = some template ∨
    (∀ t, c.lookup descriptor.id locale = some t → t = "") ∧ descriptor.defaultMessage = some template)

/-- An empty text counts as none. -/
theorem nonempty_eq_none_iff {t : Option String} : nonempty t = none ↔ ∀ s, t = some s → s = "" := by
  cases t <;> simp [nonempty]

/-- Any other text counts as it is. -/
theorem nonempty_eq_some_iff {t : Option String} : nonempty t = some template ↔ t = some template ∧ template ≠ "" := by
  simp [nonempty, Option.filter_eq_some_iff]

/-- There is no template if neither the catalogue nor the descriptor has a text that is not empty. -/
theorem templateOf_eq_none_iff : c.templateOf locale descriptor = none ↔ c.HasNoTemplate locale descriptor := by
  have hnone : c.templateOf locale descriptor = none ↔
      nonempty (c.lookup descriptor.id locale) = none ∧ nonempty descriptor.defaultMessage = none := by
    rw [templateOf]
    cases nonempty (c.lookup descriptor.id locale) <;> simp
  rw [hnone, nonempty_eq_none_iff, nonempty_eq_none_iff]
  constructor
  · rintro ⟨hlookup, hdefault⟩ t (ht | ht)
    · exact hlookup t ht
    · exact hdefault t ht
  · intro h
    exact ⟨fun t ht => h t (.inl ht), fun t ht => h t (.inr ht)⟩

/-- The template is that of the catalogue, or else the default message. -/
theorem templateOf_eq_some_iff : c.templateOf locale descriptor = some template ↔ c.HasTemplate locale descriptor template := by
  have hsome : c.templateOf locale descriptor = some template ↔ nonempty (c.lookup descriptor.id locale) = some template ∨
      nonempty (c.lookup descriptor.id locale) = none ∧ nonempty descriptor.defaultMessage = some template := by
    rw [templateOf]
    cases nonempty (c.lookup descriptor.id locale) <;> simp
  rw [hsome, nonempty_eq_some_iff, nonempty_eq_none_iff, nonempty_eq_some_iff, HasTemplate]
  tauto

/-! ## Where the fallback goes -/

/-- The fallback is used: there is no template, or the template lacks a name, for which all placeholders count where no values
are given. -/
inductive UsesFallback (c : Context) (locale : Option String) (descriptor : Descriptor) (values : Option Variables) : Prop where
  | noTemplate (hnone : c.HasNoTemplate locale descriptor)
  | lacksName {template : String} {parts : List Piece} (htemplate : c.HasTemplate locale descriptor template)
      (hsplit : IsSplit template.toList parts) (hlacks : LacksName values parts)

/-- The formatter makes the text of itself, or refuses it. -/
def LeavesAsIs (c : Context) (locale : Option String) (values : Variables) (text : String) : Prop :=
  ∀ formatted, c.formatter.format text (c.localeOf locale) values = .ok formatted → formatted = text

/-- A text comes out of the formatting step as it is exactly if the formatter leaves it so. -/
theorem value_present_eq_self_iff {given : Variables} :
    (c.present locale given text).value = text ↔ c.LeavesAsIs locale given text := by
  unfold present LeavesAsIs
  cases c.formatter.format text (c.localeOf locale) given with
  | ok formatted => simp
  | error cause => simp

/-- Of texts without braces, the formatter of the message language leaves those as they are in which no two apostrophes are
adjacent. -/
theorem leavesAsIs_iff_of_noBrace {given : Variables} (hformatter : c.formatter = .standard) (hbrace : NoBrace text.toList) :
    c.LeavesAsIs locale given text ↔ ¬['\'', '\''] <:+: text.toList := by
  have hformat := format_of_noBrace hbrace (c.localeOf locale) given
  rw [String.ofList_toList, ← hformatter] at hformat
  rw [← value_present_eq_self_iff, value_present_of_ok hformat, ← undouble_eq_self_iff, ← String.toList_inj,
    String.toList_ofList]

/-- The fallback takes the place of a filled template that lacks a name. -/
theorem value_fill_of_lacksName (text : String) (hsplit : IsSplit template.toList parts) (hlacks : LacksName values parts) :
    (fill template values (some text) resolve).value = text := by
  obtain rfl := isSplit_iff.mp hsplit
  cases values with
  | none => exact value_fill_none_some text hlacks
  | some given =>
    obtain ⟨n, hn, hnone⟩ := hlacks
    exact value_fill_some text ⟨.name n, hn, by rw [fillPiece?, hnone]; rfl⟩

/-- Without a template the fallback is the message. -/
theorem value_formatMessage_of_hasNoTemplate (text : String) (h : c.HasNoTemplate locale descriptor) :
    (c.formatMessage descriptor values locale (some text)).value = text := by
  simp only [formatMessage, formatWith, templateOf_eq_none_iff.mpr h, Logged.value_pure]

/-- In place of a template that lacks a name, the fallback goes through the formatting step. -/
theorem value_formatMessage_of_lacksName (text : String) (htemplate : c.HasTemplate locale descriptor template)
    (hsplit : IsSplit template.toList parts) (hlacks : LacksName values parts) :
    (c.formatMessage descriptor values locale (some text)).value = (c.present locale (values.getD .empty) text).value := by
  simp only [formatMessage, formatWith, templateOf_eq_some_iff.mpr htemplate, Logged.value_bind,
    value_fill_of_lacksName text hsplit hlacks]

/-- A fallback that is used is the message exactly if there is no template or the formatter leaves it as it is. With the
formatter of the message language, a fallback without braces is left as it is if no two of its apostrophes are adjacent. -/
theorem value_formatMessage_fallback (text : String) (h : c.UsesFallback locale descriptor values) :
    ((c.formatMessage descriptor values locale (some text)).value = text ↔
      c.HasNoTemplate locale descriptor ∨ c.LeavesAsIs locale (values.getD .empty) text) ∧
    (c.formatter = .standard → NoBrace text.toList →
      ((c.formatMessage descriptor values locale (some text)).value = text ↔
        c.HasNoTemplate locale descriptor ∨ ¬['\'', '\''] <:+: text.toList)) := by
  have hiff : (c.formatMessage descriptor values locale (some text)).value = text ↔
      c.HasNoTemplate locale descriptor ∨ c.LeavesAsIs locale (values.getD .empty) text := by
    cases h with
    | noTemplate hnone => exact iff_of_true (value_formatMessage_of_hasNoTemplate text hnone) (.inl hnone)
    | @lacksName template parts htemplate hsplit hlacks =>
      have hsome : ¬c.HasNoTemplate locale descriptor := by
        rw [← templateOf_eq_none_iff, templateOf_eq_some_iff.mpr htemplate]
        exact Option.some_ne_none template
      rw [value_formatMessage_of_lacksName text htemplate hsplit hlacks, value_present_eq_self_iff, or_iff_right hsome]
  refine ⟨hiff, fun hformatter hbrace => ?_⟩
  rw [hiff, leavesAsIs_iff_of_noBrace hformatter hbrace]

namespace FallbackWitness

/-- Two templates with names to be filled in. -/
def office : Context := .ofCatalogue ⟨.ofList [("en", .ofList [("greeting", "Hi {name}"), ("pair", "{a} and {b}")])]⟩ "en"

/-- The parts of the greeting. -/
def greetingParts : List Piece := [.text "Hi ".toList, .name "name"]

/-- The parts of the pair. -/
def pairParts : List Piece := [.name "a", .text " and ".toList, .name "b"]

/-- A value for one of two names. -/
def half : Variables := .ofList [("a", .text "x")]

/-- Both templates are split into these parts. -/
theorem isSplit_office : IsSplit "Hi {name}".toList greetingParts ∧ IsSplit "{a} and {b}".toList pairParts :=
  ⟨isSplit_of_standApart (by decide) ⟨by decide, rfl, by decide, trivial⟩,
    isSplit_of_standApart (by decide) ⟨by decide, by decide, rfl, by decide, trivial⟩⟩

/-- Without values the name is lacking. -/
theorem usesFallback_greeting : office.UsesFallback none ⟨"greeting", none⟩ none :=
  .lacksName ⟨by decide, .inl (by decide : office.lookup "greeting" none = some "Hi {name}")⟩ isSplit_office.1
    ⟨.name "name", by decide, rfl⟩

/-- With one value of two the other is lacking. -/
theorem usesFallback_pair : office.UsesFallback none ⟨"pair", none⟩ (some half) :=
  .lacksName ⟨by decide, .inl (by decide : office.lookup "pair" none = some "{a} and {b}")⟩ isSplit_office.2
    ⟨"b", by decide, by decide⟩

end FallbackWitness

open FallbackWitness in
/-- A fallback with quotation marks and a number sign, but no adjacent apostrophes, is the message. -/
theorem value_formatMessage_fallback_hello :
    office.UsesFallback none ⟨"greeting", none⟩ none ∧ NoBrace "'Hello' # you's".toList ∧
      (office.formatMessage ⟨"greeting", none⟩ none none (some "'Hello' # you's")).value = "'Hello' # you's" := by
  have hbrace : NoBrace "'Hello' # you's".toList := by decide
  have happart : ¬['\'', '\''] <:+: "'Hello' # you's".toList := by decide
  exact ⟨usesFallback_greeting, hbrace,
    ((value_formatMessage_fallback "'Hello' # you's" usesFallback_greeting).2 rfl hbrace).mpr (.inr happart)⟩

open FallbackWitness in
/-- In place of a template that lacks a name, a fallback loses one of two apostrophes and has its arguments filled. -/
theorem value_formatMessage_fallback_false :
    office.UsesFallback none ⟨"greeting", none⟩ none ∧
      (office.formatMessage ⟨"greeting", none⟩ none none (some "it''s")).value = "it's" ∧
      office.UsesFallback none ⟨"pair", none⟩ (some half) ∧
      (office.formatMessage ⟨"pair", none⟩ (some half) none (some "{a}")).value = "x" :=
  ⟨usesFallback_greeting, by decide +kernel, usesFallback_pair, by decide +kernel⟩

end Phrasebook.Context
