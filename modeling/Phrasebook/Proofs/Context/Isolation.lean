import Phrasebook.Context.Message

/-!
# What a message depends on

Besides its arguments, a call reads the templates of one locale and the formatter in this locale, and a reference is
followed only to ids that are not in the chain. So two contexts that agree outside the chain resolve every reference alike
(`AgreesOutside.resolve_eq`), and what is asked of a context for a locale depends on the templates of this locale only, not
on the locales beside it or on the languages of the context (`locale_isolation`).
-/

namespace Phrasebook.Context

open Template

variable {c c' : Context} {locale locale' : Option String} {chain chain' : List String} {descriptor : Descriptor}

/-- In their locales, the contexts hold the same templates for all ids outside the chain, and present every text alike. -/
structure AgreesOutside (chain : List String) (c : Context) (locale : Option String) (c' : Context)
    (locale' : Option String) : Prop where
  lookup : ∀ id, id ∉ chain → c.lookup id locale = c'.lookup id locale'
  present : ∀ values text, c.present locale values text = c'.present locale' values text

theorem AgreesOutside.mono (h : AgreesOutside chain c locale c' locale') (hchain : chain ⊆ chain') :
    AgreesOutside chain' c locale c' locale' :=
  ⟨fun id hid => h.lookup id fun hmem => hid (hchain hmem), h.present⟩

/-- Outside the chain, a descriptor has the same template. -/
theorem AgreesOutside.templateOf_eq (h : AgreesOutside chain c locale c' locale') (hid : descriptor.id ∉ chain) :
    c.templateOf locale descriptor = c'.templateOf locale' descriptor := by
  rw [templateOf, templateOf, h.lookup _ hid]

/-- Outside the chain, a message is the same where references are resolved alike. -/
theorem AgreesOutside.formatWith_eq (h : AgreesOutside chain c locale c' locale') (hid : descriptor.id ∉ chain)
    {values : Option Variables} {fallback : Option String}
    {resolve resolve' : Variables → List Fragment → Logged (Option String)} (hresolve : resolve = resolve') :
    c.formatWith locale descriptor values fallback resolve = c'.formatWith locale' descriptor values fallback resolve' := by
  subst hresolve
  unfold formatWith
  rw [h.templateOf_eq hid]
  simp only [h.present]

/-- References are resolved alike, by induction on how many more messages may be resolved: a message that a reference leads
to lies outside the chain, and is in the chain of its own references. -/
theorem AgreesOutside.resolve_eq (h : AgreesOutside chain c locale c' locale') (remaining : Nat) :
    c.resolve locale remaining chain = c'.resolve locale' remaining chain := by
  induction remaining generalizing chain with
  | zero =>
    funext values reference
    rw [resolve, resolve]
  | succ remaining ih =>
    funext values reference
    rw [resolve, resolve]
    refine bind_congr fun id => ?_
    split
    · rfl
    · next hid =>
      have hinner : c.resolve locale remaining (chain ++ [id]) = c'.resolve locale' remaining (chain ++ [id]) :=
        ih (h.mono (List.subset_append_left _ _))
      exact congrArg (some <$> ·) (h.formatWith_eq hid hinner)

theorem AgreesOutside.formatMessage_eq (h : AgreesOutside [] c locale c' locale') (values : Option Variables)
    (fallback : Option String) :
    c.formatMessage descriptor values locale fallback = c'.formatMessage descriptor values locale' fallback :=
  h.formatWith_eq List.not_mem_nil ((h.mono (List.nil_subset _)).resolve_eq _)

/-- A call for a locale is like a call in this language for no locale, in any context with the same formatter and the same
templates for it; and so is every reference that is resolved on the way. -/
theorem locale_isolation {L : String} (hformatter : c.formatter = c'.formatter)
    (htemplates : ∀ id, c.catalogue.lookup id L = c'.catalogue.lookup id L) :
    (∀ descriptor values fallback, c.formatMessage descriptor values (some L) fallback =
      (c'.withLanguage L).formatMessage descriptor values none fallback) ∧
    (∀ template values fallback, c.replaceVariables template values (some L) fallback =
      (c'.withLanguage L).replaceVariables template values none fallback) ∧
    (∀ id text, c.recoverVariables id text (some L) = (c'.withLanguage L).recoverVariables id text none) ∧
    ∀ remaining chain values reference, c.resolve (some L) remaining chain values reference =
      (c'.withLanguage L).resolve none remaining chain values reference := by
  have hlookup : ∀ id, c.lookup id (some L) = (c'.withLanguage L).lookup id none := htemplates
  have hagrees : AgreesOutside [] c (some L) (c'.withLanguage L) none := by
    refine ⟨fun id _ => hlookup id, fun values text => ?_⟩
    simp only [present, localeOf, withLanguage, hformatter, Option.getD_some, Option.getD_none]
  refine ⟨fun descriptor values fallback => hagrees.formatMessage_eq values fallback, ?_, ?_, ?_⟩
  · intro template values fallback
    rw [replaceVariables, replaceVariables, hagrees.resolve_eq]
  · intro id text
    rw [recoverVariables, recoverVariables, hlookup]
  · intro remaining chain values reference
    rw [(hagrees.mono (List.nil_subset chain)).resolve_eq]

namespace IsolationWitness

/-- The gap in German is filled from English. -/
def filled : Context :=
  .ofCatalogue ⟨.ofList [("en", .ofList [("name", "Ann"), ("hello", "Hello, \x7b@'name'\x7d!")]),
    ("de", .ofList [("name", ""), ("hello", "Hallo, \x7b@'name'\x7d!")])]⟩ "en"

/-- German has the text without a gap, beside other locales. -/
def written : Context :=
  .ofCatalogue ⟨.ofList [("de", .ofList [("name", "[en]Ann"), ("hello", "Hallo, \x7b@'name'\x7d!")]),
    ("fr", .ofList [("name", "Anne"), ("hello", "")])]⟩ "fr"

end IsolationWitness

open IsolationWitness in
/-- In German, the message that is referred to is not taken from English or French. -/
theorem locale_isolation_hello :
    (filled.formatMessage ⟨"hello", none⟩ none (some "de") none).value = "Hallo, [en]Ann!" ∧
      filled.formatMessage ⟨"hello", none⟩ none (some "de") none =
        (written.withLanguage "de").formatMessage ⟨"hello", none⟩ none none none := by
  have htemplates : ∀ id, filled.catalogue.lookup id "de" = written.catalogue.lookup id "de" := by
    have hsame : filled.catalogue.locales.get? "de" = written.catalogue.locales.get? "de" := by rfl
    intro id
    rw [Catalogue.lookup, Catalogue.lookup, hsame]
  exact ⟨by decide +kernel, (locale_isolation rfl htemplates).1 _ _ _⟩

end Phrasebook.Context
