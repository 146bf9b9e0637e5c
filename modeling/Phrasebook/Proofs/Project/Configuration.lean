import Phrasebook.Project.ConfigReader
import Phrasebook.Proofs.Json.RoundTrip

/-!
# Configurations that are read back

A reader of an option undoes its writer (`Undoes`), and so do the readers of lists of options. An option of an object is found
under the name it was written with (`field?_treesOfMembers`). So a configuration whose indentation fits a machine word is read from
its text as it is, on one line or indented (`read?_text_toJson`): what is absent was written as null and does not turn into its
default.
-/

namespace Phrasebook.Config

open Json (Tree tree treesOfMembers)

variable {α : Type} {decode : Decoder α} {write : α → Json}

/-! ## Readers that undo writers -/

/-- The reader gives back every value from the tree of its written form. -/
def Undoes (decode : Decoder α) (write : α → Json) : Prop := ∀ x, decode (write x).tree = some x

/-- A text is read as it was written. -/
theorem undoes_text : Undoes text? .string := fun _ => rfl

/-- So is a truth value. -/
theorem undoes_bool : Undoes bool? .bool := fun _ => rfl

/-- A text that is missing is read as missing. -/
theorem undoes_optionalText : Undoes optionalText? optionJson
  | none => rfl
  | some _ => rfl

/-- The two kinds of captures have different names. -/
theorem undoes_kind : Undoes kind? fun kind => .string (kindName kind)
  | .descriptor => rfl
  | .id => rfl

/-- Items are read one by one. -/
theorem mapM_treesOfItems (h : Undoes decode write) (l : List α) :
    (Json.treesOfItems (l.map write)).mapM decode = some l := by
  induction l with
  | nil => rfl
  | cons x l ih => simp [Json.treesOfItems, h x, ih]

/-- A list of texts is read text by text. -/
theorem undoes_texts : Undoes texts? textsJson := mapM_treesOfItems undoes_text

/-- A natural number of 64 bits is read from its numeral. -/
theorem natural?_tree {n : Nat} (h : n < 2 ^ 64) : natural? (Json.integer n).tree = some n := by
  have hvalue : (Json.integerNumeral n).value? = some (.integer n) :=
    Json.value?_integerNumeral ⟨by omega, by omega⟩
  have hsign : (Json.integerNumeral n).negative = false := by simp [Json.integerNumeral]
  unfold Json.Numeral.value? at hvalue
  rw [tree, natural?, hsign]
  cases hwhole : (Json.integerNumeral n).whole? with
  | none => simp [hwhole] at hvalue
  | some k =>
    obtain rfl : k = n := by simpa [hwhole] using hvalue
    simp

/-! ## Fields -/

/-- Members as a reader of options sees them. -/
theorem treesOfMembers_eq_map (members : List (String × Json)) :
    treesOfMembers members = members.map fun (name, value) => (some name, value.tree) := by
  induction members with
  | nil => rfl
  | cons member members ih => rw [treesOfMembers, ih, List.map_cons]

/-- The keys of an object can all be read, as they were written. -/
theorem all_isSome_treesOfMembers (members : List (String × Json)) :
    (treesOfMembers members).all (·.1.isSome) = true := by
  simp [treesOfMembers_eq_map]

/-- An option is read from the only member that has one of its names. -/
theorem field?_treesOfMembers {members : List (String × Json)} {names : List String} {name : String} {value : Json}
    (h : (members.filter fun member => names.contains member.1) = [(name, value)]) (decode : Decoder α) (default : Option α) :
    field? (treesOfMembers members) names decode default = decode value.tree := by
  have hvalues : valuesOf names (treesOfMembers members) = [value.tree] := by
    rw [valuesOf, treesOfMembers_eq_map, List.filter_map, List.map_map]
    exact congrArg (List.map fun member : String × Json => member.2.tree) h
  rw [field?, hvalues]

/-- A pattern is read from its two members. -/
theorem undoes_pattern : Undoes pattern? patternJson := by
  intro p
  rw [patternJson, tree, pattern?, if_pos (all_isSome_treesOfMembers _), field?_treesOfMembers rfl, field?_treesOfMembers rfl,
    undoes_text, undoes_kind]
  rfl

/-- So are all patterns. -/
theorem undoes_patterns : Undoes patterns? fun patterns => .array (patterns.map patternJson) := mapM_treesOfItems undoes_pattern

/-! ## Configurations -/

/-- The options are read from the tree of a configuration, one after the other. -/
theorem ofTree?_toJson {c : Config} (h : c.jsonIndent < 2 ^ 64) : ofTree? c.toJson.tree = some c := by
  rw [toJson, tree, ofTree?, if_pos (all_isSome_treesOfMembers _), ofSource?,
    -- where the sources and the locale files are
    field?_treesOfMembers rfl, undoes_texts, field?_treesOfMembers rfl, undoes_text, field?_treesOfMembers rfl, undoes_text,
    field?_treesOfMembers rfl, undoes_text, field?_treesOfMembers rfl, undoes_texts, field?_treesOfMembers rfl, undoes_texts,
    -- how dictionaries are merged and written
    field?_treesOfMembers rfl, undoes_optionalText, field?_treesOfMembers rfl, undoes_optionalText,
    field?_treesOfMembers rfl, undoes_bool, field?_treesOfMembers rfl, undoes_bool,
    field?_treesOfMembers rfl, natural?_tree h,
    -- how messages are found
    field?_treesOfMembers rfl, undoes_patterns, field?_treesOfMembers rfl, undoes_texts]
  rfl

/-- A list is readable if what its items are written as is. -/
theorem areReadable_map (h : ∀ x, (write x).IsReadable) (l : List α) : Json.AreReadable (l.map write) := by
  rw [Json.areReadable_iff]
  intro item hitem
  obtain ⟨x, -, rfl⟩ := List.mem_map.mp hitem
  exact h x

/-- A text is shallow enough to be read. -/
theorem isReadable_string (s : String) : (Json.string s).IsReadable := trivial

/-- So is a list of texts. -/
theorem isReadable_textsJson (texts : List String) : (textsJson texts).IsReadable := areReadable_map isReadable_string texts

/-- So is a text that may be missing. -/
theorem isReadable_optionJson (text : Option String) : (optionJson text).IsReadable := by
  cases text <;> trivial

/-- So is a pattern. -/
theorem isReadable_patternJson (p : Pattern) : (patternJson p).IsReadable := ⟨by simp, trivial, trivial, trivial⟩

/-- What a configuration is written as can be read. -/
theorem isReadable_toJson {c : Config} (h : c.jsonIndent < 2 ^ 64) : c.toJson.IsReadable := by
  have hindent : Json.FitsInteger c.jsonIndent := ⟨by omega, by omega⟩
  have hpatterns : Json.AreReadable (c.patterns.map patternJson) := areReadable_map isReadable_patternJson c.patterns
  rw [toJson, Json.IsReadable, Json.haveReadable_iff]
  refine ⟨by simp, ?_⟩
  simp [isReadable_textsJson, isReadable_optionJson, hpatterns, Json.IsReadable, hindent]

/-- A configuration whose indentation fits 64 bits is read from its text, however that is indented, as it is; so what is read
is as valid, and asks for the same order. -/
theorem read?_text_toJson {c : Config} (h : c.jsonIndent < 2 ^ 64) (indent : Nat) :
    ∃ back, read? (c.toJson.text indent) = some back ∧ back = c ∧ back.validate = c.validate ∧
      back.keyOrder = c.keyOrder := by
  have htree : Tree.read? (c.toJson.text indent) = some c.toJson.tree := by
    have hread := Json.treeRead?_write indent (isReadable_toJson h) Json.spaces_nil
    rwa [List.append_nil] at hread
  refine ⟨c, ?_, rfl, rfl, rfl⟩
  rw [read?, htree, Option.bind_some, ofTree?_toJson h]

namespace ConfigurationWitness

/-- Nothing is set, but for texts that need escapes and a rule. -/
def bare : Config where
  sourceDirs := []
  localesDir := ""
  defaultLanguage := "\"\\é"
  outputDir := "a\tb"
  extensions := []
  locales := ["", "en\n"]
  fallback := none
  sortBy := none
  reserveKeys := false
  emptyTags := true
  jsonIndent := 0xffffffffffffffff
  patterns := [⟨"'(.+)'", .id⟩, ⟨"", .descriptor⟩]
  ignores := ["**"]

end ConfigurationWitness

open ConfigurationWitness in
/-- What is missing stays missing. -/
theorem read?_text_toJson_bare :
    bare.jsonIndent < 2 ^ 64 ∧ bare.sortBy = none ∧
      ∃ back, read? (bare.toJson.text 2) = some back ∧ back = bare ∧ back.validate = bare.validate ∧
        back.keyOrder = bare.keyOrder :=
  ⟨by decide, rfl, read?_text_toJson (by decide) 2⟩

end Phrasebook.Config
