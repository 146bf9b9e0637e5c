import Phrasebook.Proofs.Context.References
import Phrasebook.Proofs.Context.RoundTrip
import Phrasebook.Proofs.Template.Splitting

/-!
# What is put into a message

The message of a template is assembled from its texts, the values of its names and the messages of its references, and then
goes through the formatter as one text: what was put in is read with the rest. So it stays as it is only if the formatter
leaves it alone; where there are no braces this is to say that no two apostrophes are adjacent
(`value_formatMessage_eq_present`).
-/

namespace Phrasebook.Context

open Message Template

variable {c : Context} {descriptor : Descriptor} {locale fallback : Option String} {template : String}
  {given : Variables} {values : Option Variables}

/-- What is put into a message for a part of its template. -/
def inserted (c : Context) (locale : Option String) (given : Variables) : Piece → List Char
  | .text s => s
  | .name name => shown given name
  | .reference reference => (c.messageOf locale (referencedId given reference).value).toList

/-- A template with each part replaced by what is put in for it. -/
def assembled (c : Context) (locale : Option String) (given : Variables) (template : String) : String :=
  String.ofList ((pieces template.toList).flatMap (c.inserted locale given))

/-- Without values and without a fallback, a message is formatted as with an empty set of values. -/
theorem value_formatMessage_none :
    (c.formatMessage descriptor none locale none).value = (c.formatMessage descriptor (some .empty) locale none).value := by
  unfold formatMessage formatWith
  cases c.templateOf locale descriptor with
  | some template => simp only [Logged.value_bind, value_fill_none, Option.getD_none, Option.getD_some]
  | none => simp only [Logged.value_bind, value_fill_none, Option.getD_none, Option.getD_some]

/-- The template refers to one message only, and that one to none. -/
structure RefersOnce (c : Context) (locale : Option String) (given : Variables) (template id : String) : Prop where
  refers : references given template = [id]
  ends : references .empty (c.body locale ⟨id, none⟩) = []

/-- Then the only path of references from the template ends at that message. -/
theorem RefersOnce.path_eq {id next : String} {path : List String} (h : c.RefersOnce locale given template id)
    (hnext : next ∈ references given template) (hpath : ReferencePath c locale next path) : path = [id] := by
  rw [h.refers] at hnext
  obtain rfl := List.mem_singleton.mp hnext
  cases hpath with
  | last => rfl
  | step hinner _ =>
    rw [h.ends] at hinner
    cases hinner

/-- A template is filled with what is assembled if no path of references comes back to its message or is too long. -/
theorem value_fill_assembled
    (hnames : ∀ name, .name name ∈ pieces template.toList → given.get? name ≠ none)
    (hpaths : ∀ next ∈ references given template, ∀ path, ReferencePath c locale next path →
      (descriptor.id :: path).Nodup ∧ path.length < maxDepth) :
    (fill template (some given) fallback (c.resolve locale (maxDepth - 1) [descriptor.id])).value =
      c.assembled locale given template := by
  have hpiece : ∀ piece ∈ pieces template.toList,
      (fillPiece? given (c.resolve locale (maxDepth - 1) [descriptor.id] given) piece).value =
        some (String.ofList (c.inserted locale given piece)) := by
    intro piece hpiece
    cases piece with
    | text s => rfl
    | name name =>
      cases hget : given.get? name with
      | none => exact absurd hget (hnames name hpiece)
      | some value => simp [fillPiece?, inserted, shown, hget]
    | reference reference =>
      rw [fillPiece?, inserted, String.ofList_toList]
      -- the message itself is the first of the chain
      refine value_resolve (maxDepth - 1) (fun path hpath => ?_) (Nat.le_refl _) (Nat.sub_le ..)
      obtain ⟨hnodup, hlength⟩ := hpaths _ (List.mem_filterMap.mpr ⟨_, hpiece, rfl⟩) path hpath
      exact ⟨hnodup, Nat.le_pred_of_lt hlength⟩
  rw [value_fill, assembled]
  · congr 1
    apply List.flatMap_congr
    intro piece hmem
    rw [filling, hpiece piece hmem]
    exact String.toList_ofList
  · right
    intro piece hmem
    rw [hpiece piece hmem]
    exact Option.some_ne_none _

/-- A message is what is assembled for its template, after the formatter; and where that has no braces, it comes out as it
is exactly if no two of its apostrophes are adjacent. -/
theorem value_formatMessage_eq_present (hformatter : c.formatter = .standard)
    (htemplate : c.lookup descriptor.id locale = some template) (hne : template ≠ "")
    (hgiven : values = none → fallback = none)
    (hnames : ∀ name, .name name ∈ pieces template.toList → (values.getD .empty).get? name ≠ none)
    (hpaths : ∀ next ∈ references (values.getD .empty) template, ∀ path, ReferencePath c locale next path →
      (descriptor.id :: path).Nodup ∧ path.length < maxDepth) :
    (c.formatMessage descriptor values locale fallback).value =
        (c.present locale (values.getD .empty) (c.assembled locale (values.getD .empty) template)).value ∧
      (NoBrace (c.assembled locale (values.getD .empty) template).toList →
        ((c.formatMessage descriptor values locale fallback).value = c.assembled locale (values.getD .empty) template ↔
          ¬['\'', '\''] <:+: (c.assembled locale (values.getD .empty) template).toList)) := by
  have hmessage : (c.formatMessage descriptor values locale fallback).value =
      (c.present locale (values.getD .empty) (c.assembled locale (values.getD .empty) template)).value := by
    cases values with
    | some given =>
      rw [Option.getD_some] at hnames hpaths ⊢
      rw [value_formatMessage htemplate hne, value_fill_assembled hnames hpaths]
    | none =>
      rw [Option.getD_none] at hnames hpaths ⊢
      rw [hgiven rfl, value_formatMessage_none, value_formatMessage htemplate hne, value_fill_assembled hnames hpaths]
  refine ⟨hmessage, fun hbrace => ?_⟩
  rw [hmessage]
  generalize c.assembled locale (values.getD .empty) template = text at *
  have hformat := format_of_noBrace hbrace (c.localeOf locale) (values.getD .empty)
  rw [String.ofList_toList, ← hformatter] at hformat
  rw [value_present_of_ok hformat, ← undouble_eq_self_iff, ← String.toList_inj, String.toList_ofList]

namespace VerbatimWitness

/-- A template that refers to another message by an id which a value completes. -/
def letter : String := "Hi {name}, \x7b@'end.{kind}'\x7d!"

/-- Messages of an office, in one locale. -/
def office : Context :=
  .ofCatalogue ⟨.ofList [("en", .ofList [("letter", letter), ("end.short", "it's late"), ("greeting", "Hi {name}")])]⟩ "en"

/-- Values with no two adjacent apostrophes. -/
def friend : Variables := .ofList [("name", .text "O'Neil"), ("kind", .text "short")]

/-- A value that has two adjacent apostrophes. -/
def doubled : Variables := .ofList [("name", .text "it''s")]

/-- A value that has braces between apostrophes. -/
def quoted : Variables := .ofList [("name", .text "'\x7bx\x7d'")]

/-- The parts of the letter. -/
def letterParts : List Piece :=
  [.text "Hi ".toList, .name "name", .text ", ".toList, .reference [.text "end.".toList, .name "kind"], .text "!".toList]

theorem isSplit_letter : IsSplit letter.toList letterParts := by
  have hid : IsId [.text "end.".toList, .name "kind"] := ⟨by decide, List.all_eq_true.mp rfl, nofun, by decide, trivial⟩
  exact isSplit_of_standApart (by decide)
    ⟨by decide, rfl, by decide, by decide, rfl, ⟨nofun, hid⟩, by decide, rfl, trivial⟩

/-- All names of the letter have values. -/
theorem get?_friend_ne_none (name : String) (h : .name name ∈ pieces letter.toList) : friend.get? name ≠ none := by
  rw [← isSplit_iff.mp isSplit_letter] at h
  obtain rfl : name = "name" := by simpa [letterParts] using h
  decide

/-- The letter refers to one message, which has no placeholders. -/
theorem refersOnce_letter : office.RefersOnce none friend letter "end.short" := by
  have hend : IsSplit (office.body none ⟨"end.short", none⟩).toList [.text "it's late".toList] :=
    isSplit_of_standApart (by decide) ⟨by decide, rfl, trivial⟩
  constructor
  · rw [references, ← isSplit_iff.mp isSplit_letter]
    decide
  · rw [references, ← isSplit_iff.mp hend]
    decide

end VerbatimWitness

open VerbatimWitness in
/-- What the friend gets is the assembled letter as the formatter presents it. -/
theorem value_formatMessage_eq_present_letter :
    (office.formatMessage ⟨"letter", none⟩ (some friend) none none).value =
        (office.present none friend (office.assembled none friend letter)).value ∧
      (NoBrace (office.assembled none friend letter).toList →
        ((office.formatMessage ⟨"letter", none⟩ (some friend) none none).value = office.assembled none friend letter ↔
          ¬['\'', '\''] <:+: (office.assembled none friend letter).toList)) := by
  have htemplate : office.lookup (Descriptor.mk "letter" none).id none = some letter := by rfl
  have hpaths : ∀ next ∈ references friend letter, ∀ path, ReferencePath office none next path →
      ("letter" :: path).Nodup ∧ path.length < maxDepth := by
    intro next hnext path hpath
    obtain rfl := refersOnce_letter.path_eq hnext hpath
    decide
  exact value_formatMessage_eq_present rfl htemplate (by decide) (by decide) get?_friend_ne_none hpaths

open VerbatimWitness in
/-- Two apostrophes in a value become one, and a quoted brace in a value loses its quotes. -/
theorem value_formatMessage_verbatim_false :
    office.assembled none doubled "Hi {name}" = "Hi it''s" ∧
      (office.formatMessage ⟨"greeting", none⟩ (some doubled) none none).value = "Hi it's" ∧
      office.assembled none quoted "Hi {name}" = "Hi '\x7bx\x7d'" ∧
      (office.formatMessage ⟨"greeting", none⟩ (some quoted) none none).value = "Hi \x7bx\x7d" := by
  decide +kernel

end Phrasebook.Context
