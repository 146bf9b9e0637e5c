import Phrasebook.Proofs.Catalogue.Gaps
import Phrasebook.Proofs.Context.Isolation
import Phrasebook.Proofs.Context.Verbatim
import Phrasebook.Proofs.Message.PlainFront

/-!
# Messages of filled gaps

A gap is filled with the name of the default language in brackets and its template. If the name is plain, the bracketed name
passes through everything that is done with the template: it has no placeholders (`value_fill_append`), it is text to the
formatter (`value_present_append`), and references are resolved as they are without it, since none is followed back to the
message itself. So it stands in front of the message that the template has by itself (`value_formatMessage_fillGaps`).
-/

namespace Phrasebook

/-- What stands for an empty template is the template of the other locale, with its name in front. -/
theorem Catalogue.lookup_fillGaps {catalogue : Catalogue} {source locale id template : String} (hlocale : locale ≠ source)
    (hgap : catalogue.lookup id locale = some "") (hdefault : catalogue.lookup id source = some template)
    (hne : template ≠ "") : (catalogue.fillGaps source).lookup id locale = some (filling source template) := by
  obtain ⟨templates, htemplates, hget⟩ := Option.bind_eq_some_iff.mp hgap
  obtain ⟨defaults, hdefaults, hget'⟩ := Option.bind_eq_some_iff.mp hdefault
  simp only [fillGaps, lookup, hdefaults, OrderedMap.get?_mapValues, htemplates, Option.map_some, Option.bind_some,
    if_neg hlocale, hget, fillTemplate, if_true, hget', if_neg hne]

namespace Context

open Message Template

variable {c : Context} {locale : Option String} {given values : Variables} {text template : String}
  {resolve : Variables → List Fragment → Logged (Option String)}

/-! ## Text in front of a template -/

/-- Where no placeholder can begin, the parts begin with characters of text. -/
theorem flatMap_filling_append (resolve : List Fragment → Logged (Option String)) {front : List Char} (hfront : '{' ∉ front)
    (s : List Char) :
    (pieces (front ++ s)).flatMap (filling given resolve) = front ++ (pieces s).flatMap (filling given resolve) := by
  induction front with
  | nil => rfl
  | cons a front ih =>
    have ha : a ≠ '{' := fun heq => hfront (heq ▸ List.mem_cons_self)
    rw [List.cons_append, pieces, if_neg ha, flatMap_consPiece fun _ => String.toList_ofList,
      ih fun hmem => hfront (List.mem_cons_of_mem a hmem), List.cons_append]

/-- Text without a placeholder stands in front of the filled template. -/
theorem value_fill_append (htext : '{' ∉ text.toList) :
    (fill (text ++ template) (some given) none resolve).value =
      text ++ (fill template (some given) none resolve).value := by
  rw [value_fill (.inl rfl), value_fill (.inl rfl), String.toList_append, flatMap_filling_append _ htext,
    String.ofList_append, String.ofList_toList]

/-- Plain text stands in front of what is presented, whether the formatter takes the text behind it or not. -/
theorem value_present_append (hformatter : c.formatter = .standard) (hplain : IsPlain text.toList) (message : String) :
    (c.present locale values (text ++ message)).value = text ++ (c.present locale values message).value := by
  unfold present
  rw [hformatter]
  cases hmessage : Formatter.standard.format message (c.localeOf locale) values with
  | ok formatted =>
    rw [(format_append_eq_ok_iff hplain).mpr ⟨formatted, hmessage, rfl⟩]
    rfl
  | error cause =>
    cases hboth : Formatter.standard.format (text ++ message) (c.localeOf locale) values with
    | error cause' => rfl
    | ok formatted =>
      obtain ⟨others, hothers, -⟩ := (format_append_eq_ok_iff hplain).mp hboth
      rw [hmessage] at hothers
      cases hothers

/-! ## The message of a filled gap -/

theorem isPlain_tag {d : String} (hd : IsPlain d.toList) : IsPlain ("[" ++ d ++ "]").toList := by
  rw [String.toList_append, String.toList_append]
  exact ((by decide : IsPlain "[".toList).append hd).append (by decide)

/-- The message of a filled gap, with the name in front of the message of the template by itself. -/
theorem AgreesOutside.value_formatMessage_filling {c' : Context} {descriptor : Descriptor} {d t : String}
    (h : AgreesOutside [descriptor.id] c locale c' locale) (hformatter : c.formatter = .standard) (hd : IsPlain d.toList)
    (htemplate : c.lookup descriptor.id locale = some (Catalogue.filling d t))
    (htemplate' : c'.lookup descriptor.id locale = some t) (hne : t ≠ "") :
    (c.formatMessage descriptor (some values) locale none).value =
      "[" ++ d ++ "]" ++ (c'.formatMessage descriptor (some values) locale none).value := by
  have htag := isPlain_tag hd
  -- references are resolved inside the message itself, which is the only one that differs
  rw [value_formatMessage htemplate (Catalogue.filling_ne_empty d t), value_formatMessage htemplate' hne, ← h.resolve_eq, ← h.present,
    Catalogue.filling, value_fill_append fun hmem => (htag _ hmem).1 rfl, value_present_append hformatter htag]

/-- A filled gap has the message that the template of the default language would have in the locale, with the name of the
default language in front. -/
theorem value_formatMessage_fillGaps {catalogue other : Catalogue} {descriptor : Descriptor} {d L t : String}
    (hd : IsPlain d.toList) (hL : L ≠ d) (hgap : catalogue.lookup descriptor.id L = some "")
    (hdefault : catalogue.lookup descriptor.id d = some t) (hne : t ≠ "")
    (hother : other.lookup descriptor.id L = some t)
    (hsame : ∀ id, id ≠ descriptor.id → other.lookup id L = (catalogue.fillGaps d).lookup id L)
    (values : Option Variables) :
    ((ofCatalogue catalogue d).formatMessage descriptor values (some L) none).value =
      "[" ++ d ++ "]" ++
        ({ ofCatalogue catalogue d with catalogue := other }.formatMessage descriptor values (some L) none).value := by
  have hagrees : AgreesOutside [descriptor.id] (ofCatalogue catalogue d) (some L)
      { ofCatalogue catalogue d with catalogue := other } (some L) :=
    ⟨fun id hid => (hsame id fun heq => hid (List.mem_singleton.mpr heq)).symm, fun _ _ => rfl⟩
  have htemplate : (ofCatalogue catalogue d).lookup descriptor.id (some L) = some (Catalogue.filling d t) :=
    Catalogue.lookup_fillGaps hL hgap hdefault hne
  cases values with
  | some values => exact hagrees.value_formatMessage_filling rfl hd htemplate hother hne
  | none =>
    rw [value_formatMessage_none, value_formatMessage_none]
    exact hagrees.value_formatMessage_filling rfl hd htemplate hother hne

namespace GapsWitness

/-- A text with a name, a reference to itself and one to another message. -/
def letter : String := "Dear {name}, \x7b@'letter'\x7d \x7b@'end'\x7d"

def gaps : Catalogue :=
  ⟨.ofList [("en", .ofList [("letter", letter), ("end", "bye")]), ("de", .ofList [("letter", ""), ("end", "bis bald")])]⟩

/-- The catalogue with the text itself in the gap. -/
def untagged : Catalogue :=
  ⟨.ofList [("en", .ofList [("letter", letter), ("end", "bye")]), ("de", .ofList [("letter", letter), ("end", "bis bald")])]⟩

/-- Apart from the letter, both hold the same in German. -/
theorem lookup_untagged (id : String) (hid : id ≠ "letter") :
    untagged.lookup id "de" = (gaps.fillGaps "en").lookup id "de" := by
  have huntagged : untagged.locales.get? "de" = some (.ofList [("letter", letter), ("end", "bis bald")]) := rfl
  have hfilled : (gaps.fillGaps "en").locales.get? "de" =
      some (.ofList [("letter", Catalogue.filling "en" letter), ("end", "bis bald")]) := rfl
  rw [Catalogue.lookup, Catalogue.lookup, huntagged, hfilled]
  simp [OrderedMap.get?_ofList, List.filter_cons, Ne.symm hid]

end GapsWitness

open GapsWitness in
/-- The braces of what cannot be filled are refused by the formatter, with the name in front and without it. -/
theorem value_formatMessage_fillGaps_letter :
    ({ ofCatalogue gaps "en" with catalogue := untagged }.formatMessage ⟨"letter", none⟩ none (some "de") none).value =
        "Dear {name}, \x7b@'letter'\x7d bis bald" ∧
      ((ofCatalogue gaps "en").formatMessage ⟨"letter", none⟩ none (some "de") none).value = "[" ++ "en" ++ "]" ++
        ({ ofCatalogue gaps "en" with catalogue := untagged }.formatMessage ⟨"letter", none⟩ none (some "de") none).value :=
  ⟨by decide +kernel,
    value_formatMessage_fillGaps (by decide) (by decide) (by rfl) (by rfl) (by decide) (by rfl) lookup_untagged none⟩

end Context

end Phrasebook
