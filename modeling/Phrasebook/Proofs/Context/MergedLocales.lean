import Phrasebook.Context.Basic
import Phrasebook.Project.Locales
import Phrasebook.Proofs.Catalogue.Gaps
import Phrasebook.Proofs.Dictionary.Merge

/-!
# Templates of merged dictionaries

The dictionaries that an extraction merges are the catalogue of the program that runs later, where gaps are filled from the
default language. With empty entries wanted, an id that was found holds a text in every merged dictionary (`settled_texts`),
so it has a template in every locale. In the default language this is empty only if there is neither a default message nor
a text to begin with; in all other locales an empty one is a gap, and is filled from there (`lookup_ofMerged`).
-/

namespace Phrasebook

namespace OrderedMap

variable {α β : Type}

/-- Selecting images leaves to a key the image of what it held. -/
theorem get?_filterMap (f : α → Option β) (m : OrderedMap α) (key : String) :
    (m.filterMap f).get? key = (m.get? key).bind f := by
  apply Option.ext
  intro image
  rw [get?_eq_some_iff, Option.bind_eq_some_iff]
  simp only [get?_eq_some_iff, filterMap, List.mem_filterMap, Option.map_eq_some_iff, Prod.mk.injEq]
  constructor
  · rintro ⟨⟨k, value⟩, hmem, _, himage, rfl, rfl⟩
    exact ⟨value, hmem, himage⟩
  · rintro ⟨value, hmem, himage⟩
    exact ⟨(key, value), hmem, image, himage, rfl, rfl⟩

end OrderedMap

namespace Dictionary

/-- Is the value a text or null, as those of messages are? -/
def isTextOrNull : Json → Bool
  | .null | .string _ => true
  | _ => false

/-- A text or nothing that is settled with a candidate is a text: its own, or else the candidate. -/
theorem settled_texts (candidate : String) {held : Option Json} (hheld : held.all isTextOrNull = true) :
    ∃ text, settled (some candidate) held = some (.string text) ∧
      (held = some (.string text) ∧ text ≠ "" ∨ ¬held.any isMessage ∧ text = candidate) := by
  rcases held with _ | value
  · exact ⟨candidate, rfl, .inr ⟨by simp, rfl⟩⟩
  · cases value with
    | null => exact ⟨candidate, rfl, .inr ⟨by simp [isMessage], rfl⟩⟩
    | string s =>
      by_cases hs : s = ""
      · exact ⟨candidate, by simp [settled, Json.hasText, hs], .inr ⟨by simp [isMessage, hs], rfl⟩⟩
      · exact ⟨s, by simp [settled, Json.hasText, hs], .inl ⟨rfl, hs⟩⟩
    | _ => simp [isTextOrNull] at hheld

/-- If empty entries are wanted, every id has a candidate, and in the default language a default message comes first. -/
theorem exists_candidate? (defaultMessages : OrderedMap String) (fallback : Option Dictionary) (options : MergeOptions)
    (htags : options.emptyTags = true) (id : String) :
    ∃ text, candidate? defaultMessages fallback options id = some text ∧
      (options.isDefaultLanguage = true → id ∈ defaultMessages.keys → defaultMessages.get? id = some text) := by
  by_cases hdefault : options.isDefaultLanguage = true ∧ id ∈ defaultMessages.keys
  · obtain ⟨text, htext⟩ := OrderedMap.mem_keys_iff.mp hdefault.2
    exact ⟨text, (candidate?_of_default hdefault).trans htext, fun _ _ => htext⟩
  · rw [candidate?_of_noDefault hdefault, htags]
    refine ⟨(fallbackText? fallback id).getD "", ?_, fun hlanguage hmem => absurd ⟨hlanguage, hmem⟩ hdefault⟩
    cases fallbackText? fallback id <;> rfl

end Dictionary

namespace Catalogue

open Dictionary

variable {existing : OrderedMap Dictionary} {ids : List String} {locale id : String} {held : Dictionary}
  (defaultMessages : OrderedMap String) (fallback : Option Dictionary) (d : String) (reserveKeys : Bool) (order : KeyOrder)

/-- How the dictionary of a locale is merged if default messages are those of the language `d` and empty entries are
wanted. -/
def mergeOptions (d : String) (reserveKeys : Bool) (order : KeyOrder) (locale : String) : MergeOptions :=
  ⟨locale == d, true, reserveKeys, order⟩

/-- The texts of the dictionaries of all locales, after what was found has been merged into each. -/
def ofMerged (existing : OrderedMap Dictionary) (ids : List String) (defaultMessages : OrderedMap String)
    (fallback : Option Dictionary) (d : String) (reserveKeys : Bool) (order : KeyOrder) : Catalogue :=
  ⟨existing.mapValues fun locale held =>
    Locales.templatesOf (held.merge ids defaultMessages fallback (mergeOptions d reserveKeys order locale)).dictionary⟩

/-- In every locale an id that was found has a template: its own text if it has one, and else its candidate. -/
theorem lookup_ofMerged_eq (hlocale : existing.get? locale = some held) (hid : id ∈ ids)
    (htexts : (held.get? id).all isTextOrNull = true) :
    ∃ text candidate, (ofMerged existing ids defaultMessages fallback d reserveKeys order).lookup id locale = some text ∧
      candidate? defaultMessages fallback (mergeOptions d reserveKeys order locale) id = some candidate ∧
      (held.get? id = some (.string text) ∧ text ≠ "" ∨ ¬(held.get? id).any isMessage ∧ text = candidate) := by
  obtain ⟨candidate, hcandidate, -⟩ :=
    exists_candidate? defaultMessages fallback (mergeOptions d reserveKeys order locale) rfl id
  obtain ⟨text, hsettled, htext⟩ := settled_texts candidate htexts
  refine ⟨text, candidate, ?_, hcandidate, htext⟩
  rw [lookup, ofMerged, OrderedMap.get?_mapValues, hlocale, Option.map_some, Option.bind_some, Locales.templatesOf,
    OrderedMap.get?_filterMap, get?_merge, if_pos hid, hcandidate, hsettled]
  rfl

/-- In the default language, an id that was found has a text that is not empty if it has a default message or had one. -/
theorem lookup_ofMerged_ne_empty (hdefaults : "" ∉ defaultMessages.values) (hlocale : existing.get? d = some held)
    (hid : id ∈ ids) (htexts : (held.get? id).all isTextOrNull = true)
    (h : id ∈ defaultMessages.keys ∨ (held.get? id).any isMessage = true) :
    (ofMerged existing ids defaultMessages fallback d reserveKeys order).lookup id d ≠ some "" := by
  obtain ⟨text, candidate, hlookup, hcandidate, hown | ⟨hnone, rfl⟩⟩ :=
    lookup_ofMerged_eq defaultMessages fallback d reserveKeys order hlocale hid htexts
  · rw [hlookup]
    exact fun heq => hown.2 (Option.some.inj heq)
  · rw [hlookup]
    intro heq
    obtain rfl := Option.some.inj heq
    have hmem := h.resolve_right hnone
    obtain ⟨_, hcandidate', hdefault⟩ :=
      exists_candidate? defaultMessages fallback (mergeOptions d reserveKeys order d) rfl id
    obtain rfl := Option.some.inj (hcandidate.symm.trans hcandidate')
    have hempty := OrderedMap.get?_eq_some_iff.mp (hdefault (by simp [mergeOptions]) hmem)
    exact hdefaults (List.mem_map_of_mem hempty)

end Catalogue

namespace Context

open Catalogue Dictionary

variable {existing : OrderedMap Dictionary} {ids : List String} {defaultMessages : OrderedMap String}
  {fallback : Option Dictionary} {d locale id : String} {held : Dictionary} {reserveKeys : Bool} {order : KeyOrder}

/-- From dictionaries to messages: once what was found is merged into the dictionaries of the configured locales, and the gaps
of the texts are filled from the default language, every id that was found has a template in every locale. It is not empty if
there is a default message for the id, or a text for it in the default language, before or after the merge; and it is the
locale's own text if that was not empty. -/
theorem lookup_ofMerged (hdefaults : "" ∉ defaultMessages.values)
    (hexisting : ∀ pair ∈ existing.entries, ∀ entry ∈ pair.2.entries, isTextOrNull entry.2 = true)
    (hd : d ∈ existing.keys) (hlocale : existing.get? locale = some held) (hid : id ∈ ids) :
    let merged := ofMerged existing ids defaultMessages fallback d reserveKeys order
    ∃ template, (ofCatalogue merged d).lookup id (some locale) = some template ∧
      (id ∈ defaultMessages.keys ∨ ((existing.get? d).bind (·.get? id)).any isMessage = true ∨
        (merged.lookup id d).any (· ≠ "") = true → template ≠ "") ∧
      ((held.get? id).any isMessage = true → held.get? id = some (.string template)) := by
  intro merged
  have htexts : ∀ {locale : String} {held : Dictionary}, existing.get? locale = some held →
      (held.get? id).all isTextOrNull = true := by
    intro locale held hlocale
    rw [Option.all_eq_true]
    intro value hvalue
    exact hexisting _ (OrderedMap.get?_eq_some_iff.mp hlocale) _ (OrderedMap.get?_eq_some_iff.mp hvalue)
  obtain ⟨defaults, hdefaultLocale⟩ := OrderedMap.mem_keys_iff.mp hd
  obtain ⟨text, _, hlookup, -, htext⟩ :=
    lookup_ofMerged_eq defaultMessages fallback d reserveKeys order hlocale hid (htexts hlocale)
  obtain ⟨source, _, hsource, -, -⟩ :=
    lookup_ofMerged_eq defaultMessages fallback d reserveKeys order hdefaultLocale hid (htexts hdefaultLocale)
  have hneed :=
    lookup_ofMerged_ne_empty defaultMessages fallback d reserveKeys order hdefaults hdefaultLocale hid (htexts hdefaultLocale)
  have hown : (held.get? id).any isMessage = true → text ≠ "" ∧ held.get? id = some (.string text) := by
    intro hmessage
    rcases htext with ⟨hheld, hne⟩ | ⟨hnone, -⟩
    · exact ⟨hne, hheld⟩
    · exact absurd hmessage hnone
  have hfilled : (ofCatalogue merged d).lookup id (some locale) =
      some (if source = "" then text else closeGap d source text) := by
    show (merged.fillGaps d).lookup id locale = _
    rw [lookup_fillGaps_eq, hsource, hlookup]
    show (if source = "" then some text else some (closeGap d source text)) = _
    split <;> rfl
  refine ⟨_, hfilled, fun hsaid => ?_, fun hmessage => ?_⟩
  · -- the default language has a text for the id, so that no gap is left
    have hne : source ≠ "" := by
      rcases hsaid with hsaid | hsaid | hsaid
      · exact fun hempty => hneed (.inl hsaid) (hempty ▸ hsource)
      · rw [hdefaultLocale, Option.bind_some] at hsaid
        exact fun hempty => hneed (.inr hsaid) (hempty ▸ hsource)
      · rw [show merged.lookup id d = some source from hsource] at hsaid
        simpa using hsaid
    rw [if_neg hne]
    exact closeGap_ne_empty d source text
  · obtain ⟨hne, hheld⟩ := hown hmessage
    rw [hheld, closeGap, if_neg hne, ite_self]

namespace MergedWitness

/-- Three locales: the default language has an empty text, French a null where it has none, and German its own text. -/
def shop : OrderedMap Dictionary := .ofList [
  ("en", .ofList [("cart", .string ""), ("pay", .string "Pay")]),
  ("fr", .ofList [("pay", .null)]),
  ("de", .ofList [("cart", .string "Wagen"), ("pay", .string "")])]

def found : List String := ["pay", "cart", "help"]

def messages : OrderedMap String := .ofList [("cart", "Cart")]

/-- The context of the shop's texts after a merge. -/
def context : Context := .ofCatalogue (ofMerged shop found messages none "en" false .none) "en"

end MergedWitness

open MergedWitness in
/-- The French text for payment is filled from English, the German one for the cart is its own. -/
theorem lookup_ofMerged_shop :
    "" ∉ messages.values ∧ "en" ∈ shop.keys ∧ context.lookup "pay" (some "fr") = some "[en]Pay" ∧
      (∃ template, context.lookup "cart" (some "de") = some template ∧ template ≠ "" ∧
        some (Json.string "Wagen") = some (.string template)) := by
  refine ⟨by decide +kernel, by decide +kernel, by decide +kernel, ?_⟩
  obtain ⟨template, htemplate, hne, hown⟩ := @lookup_ofMerged shop found messages none "en" "de" "cart"
    (.ofList [("cart", .string "Wagen"), ("pay", .string "")]) false .none
    (by decide +kernel) (by decide +kernel) (by decide +kernel) (by rfl) (by decide +kernel)
  exact ⟨template, htemplate, hne (.inl (by decide +kernel)), hown (by decide +kernel)⟩

end Context

end Phrasebook
