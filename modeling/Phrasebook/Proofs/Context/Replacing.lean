import Phrasebook.Proofs.Context.References
import Phrasebook.Proofs.Template.Splitting

/-!
# Placeholders replaced in a template

A template is replaced part by part: a text stays, a name becomes its value, and a reference becomes the message whose id is
made with the values. What is put in is not split again.

A fallback is used where a name between braces of the template has no value, but not where only a name inside a reference has
none: its id keeps the name as it is written, and the message of that id counts as found (`value_replaceVariables_of_not_lacksName`).
-/

namespace Phrasebook.Context

open Template

variable {c : Context} {template text : String} {values : Option Variables} {given : Variables} {locale : Option String}
  {id : List Fragment} {piece : Piece} {parts : List Piece}

/-! ## What stands for a part -/

/-- What stands for a part of an id. -/
def shownFragment (given : Variables) : Fragment → List Char
  | .text s => s
  | .name n => shown given n

/-- The id that is made of its parts with the values there are. -/
def idOf (given : Variables) (id : List Fragment) : String := String.ofList (id.flatMap (shownFragment given))

/-- What stands for a part of a template in a context. -/
def replacement (c : Context) (locale : Option String) (given : Variables) : Piece → List Char
  | .text s => s
  | .name n => shown given n
  | .reference id => (c.messageOf locale (idOf given id)).toList

theorem toList_text_fillFragments (given : Variables) (id : List Fragment) :
    (fillFragments given id).text.toList = id.flatMap (shownFragment given) := by
  induction id with
  | nil => rfl
  | cons fragment id ih =>
    rw [fillFragments, text_cons, ih, List.flatMap_cons]
    congr 1
    cases fragment with
    | text s => exact String.toList_ofList
    | name n =>
      rw [fillFragment?, shownFragment, shown]
      cases given.get? n <;> rfl

theorem value_referencedId (given : Variables) (id : List Fragment) : (referencedId given id).value = idOf given id := by
  rw [referencedId, value_orFallback (.inl rfl), idOf, ← toList_text_fillFragments, String.ofList_toList]

/-- Outside of all messages a reference is the message it names. -/
theorem value_resolve_maxDepth (c : Context) (locale : Option String) (given : Variables) (id : List Fragment) :
    (c.resolve locale maxDepth [] given id).value = some (c.messageOf locale (idOf given id)) := by
  rw [maxDepth, resolve]
  simp only [Logged.value_bind, List.not_mem_nil, if_false, Logged.value_map, value_referencedId]
  rfl

theorem filling_resolve (c : Context) (locale : Option String) (given : Variables) :
    filling given (c.resolve locale maxDepth [] given) = c.replacement locale given := by
  funext piece
  cases piece with
  | text s => exact String.toList_ofList
  | name n =>
    rw [filling, fillPiece?, Logged.value_pure, replacement, shown]
    cases given.get? n <;> rfl
  | reference id => rw [filling, fillPiece?, value_resolve_maxDepth, replacement]

/-! ## Replacing -/

/-- Every template has one split, and what replacing gives is, part by part, what stands for the part. Without values it is what
it is with none of them given. -/
theorem value_replaceVariables_eq (c : Context) (template : String) (locale : Option String) :
    (∃ parts, (∀ other, IsSplit template.toList other ↔ other = parts) ∧
      ∀ given, (c.replaceVariables template (some given) locale none).value =
        String.ofList (parts.flatMap (c.replacement locale given))) ∧
    (c.replaceVariables template none locale none).value =
      (c.replaceVariables template (some .empty) locale none).value := by
  refine ⟨⟨pieces template.toList, fun other => isSplit_iff, fun given => ?_⟩, value_fill_none _ _⟩
  rw [replaceVariables, value_fill (.inl rfl), filling_resolve]

/-! ## Incomplete templates -/

/-- The names that stand in a part, between braces of the template or of an id. -/
def namesOf : Piece → List String
  | .text _ => []
  | .name n => [n]
  | .reference id => id.filterMap fun
    | .text _ => none
    | .name n => some n

/-- Some name in the parts has no value. Where no values are given, every placeholder lacks one. -/
def IsIncomplete : Option Variables → List Piece → Prop
  | none, parts => ∃ piece ∈ parts, piece.isPlaceholder = true
  | some given, parts => ∃ piece ∈ parts, ∃ n ∈ namesOf piece, given.get? n = none

/-- Some name between braces of the template, outside of references, has no value. Where no values are given, every placeholder
lacks one. -/
def LacksName : Option Variables → List Piece → Prop
  | none, parts => ∃ piece ∈ parts, piece.isPlaceholder = true
  | some given, parts => ∃ n, .name n ∈ parts ∧ given.get? n = none

/-- What lacks a name is incomplete. -/
theorem LacksName.isIncomplete (h : LacksName values parts) : IsIncomplete values parts := by
  cases values with
  | none => exact h
  | some given =>
    obtain ⟨n, hn, hnone⟩ := h
    exact ⟨_, hn, n, List.mem_singleton_self n, hnone⟩

/-- Only for a name without a value is there nothing that stands for it: a reference is always found. -/
theorem lacksName_iff : LacksName (some given) parts ↔
    ∃ piece ∈ parts, (fillPiece? given (c.resolve locale maxDepth [] given) piece).value = none := by
  constructor
  · rintro ⟨n, hn, hnone⟩
    exact ⟨_, hn, by rw [fillPiece?, hnone]; rfl⟩
  · rintro ⟨piece, hpiece, hnone⟩
    cases piece with
    | text s => cases hnone
    | name n => exact ⟨n, hpiece, by simpa [fillPiece?] using hnone⟩
    | reference id =>
      rw [fillPiece?, value_resolve_maxDepth] at hnone
      cases hnone

/-- The fallback is used for a template that lacks a name. -/
theorem value_replaceVariables_of_lacksName (hsplit : IsSplit template.toList parts) (h : LacksName values parts) :
    (c.replaceVariables template values locale (some text)).value = text := by
  obtain rfl := isSplit_iff.mp hsplit
  cases values with
  | none => exact value_fill_none_some text h
  | some given => exact value_fill_some text (lacksName_iff.mp h)

/-- The fallback is not used for a template that lacks no name, also where a name in a reference has no value. -/
theorem value_replaceVariables_of_not_lacksName (hsplit : IsSplit template.toList parts) (h : ¬LacksName values parts) :
    (c.replaceVariables template values locale (some text)).value =
      (c.replaceVariables template values locale none).value := by
  obtain rfl := isSplit_iff.mp hsplit
  cases values with
  | none => rw [replaceVariables, replaceVariables, value_fill_of_no_placeholder h, value_fill_of_no_placeholder h]
  | some given =>
    have hfilled : ∀ piece ∈ pieces template.toList,
        (fillPiece? given (c.resolve locale maxDepth [] given) piece).value ≠ none :=
      fun piece hpiece hnone => h (lacksName_iff.mpr ⟨piece, hpiece, hnone⟩)
    rw [replaceVariables, replaceVariables, value_fill (.inr hfilled), value_fill (.inl rfl)]

/-- The fallback is used for exactly the incomplete templates, provided that an incomplete one lacks a name outside of
references. -/
theorem value_replaceVariables_fallback (hsplit : IsSplit template.toList parts)
    (hlacks : IsIncomplete values parts → LacksName values parts) :
    (IsIncomplete values parts → (c.replaceVariables template values locale (some text)).value = text) ∧
    (¬IsIncomplete values parts → (c.replaceVariables template values locale (some text)).value =
      (c.replaceVariables template values locale none).value) :=
  ⟨fun h => value_replaceVariables_of_lacksName hsplit (hlacks h),
    fun h => value_replaceVariables_of_not_lacksName hsplit fun hn => h hn.isIncomplete⟩

namespace ReplacingWitness

def office : Context := .ofCatalogue ⟨.ofList [("en", .ofList [("a", "A")])]⟩ "en"

/-- A status whose name depends on a value. -/
def status : String := "\x7b@'user.status.{status}'\x7d"

def statusParts : List Piece := [.reference [.text "user.status.".toList, .name "status"]]

/-- A greeting that lacks a name, and a reference whose id does not. -/
def greeting : String := "{name}: \x7b@'user.status.{status}'\x7d"

def greetingParts : List Piece := .name "name" :: .text ": ".toList :: statusParts

theorem isSplit_messages : IsSplit status.toList statusParts ∧ IsSplit greeting.toList greetingParts := by
  have hid : IsId [.text "user.status.".toList, .name "status"] :=
    ⟨by decide, List.all_eq_true.mp rfl, nofun, by decide, trivial⟩
  have hstatus : StandApart statusParts := ⟨⟨nofun, hid⟩, trivial⟩
  exact ⟨isSplit_of_standApart (by decide) hstatus,
    isSplit_of_standApart (by decide) ⟨by decide, by decide, rfl, hstatus⟩⟩

def away : Variables := .ofList [("status", .text "away")]

end ReplacingWitness

open ReplacingWitness in
theorem value_replaceVariables_fallback_greeting :
    IsSplit greeting.toList greetingParts ∧ LacksName (some away) greetingParts ∧ IsIncomplete (some away) greetingParts ∧
      (office.replaceVariables greeting (some away) none (some "Hello")).value = "Hello" := by
  have hlacks : LacksName (some away) greetingParts := ⟨"name", List.mem_cons_self, by decide⟩
  exact ⟨isSplit_messages.2, hlacks, hlacks.isIncomplete,
    (value_replaceVariables_fallback isSplit_messages.2 fun _ => hlacks).1 hlacks.isIncomplete⟩

open ReplacingWitness in
/-- A template that is incomplete inside a reference comes out with the name as it is written, in spite of the fallback. -/
theorem value_replaceVariables_fallback_false :
    IsSplit status.toList statusParts ∧ IsIncomplete (some .empty) statusParts ∧
      (office.replaceVariables status (some .empty) none (some "F")).value = "user.status.{status}" ∧
      "user.status.{status}" ≠ "F" := by
  have hincomplete : IsIncomplete (some .empty) statusParts := ⟨_, List.mem_cons_self, "status", by decide, rfl⟩
  exact ⟨isSplit_messages.1, hincomplete, by decide +kernel, by decide⟩

end Phrasebook.Context
