import Phrasebook.Json.Reader
import Phrasebook.Project.Config

/-!
# Reading configurations

The options are given as an object by their names, or as an array in their order. What is not given takes its default.
Other members of an object are passed over, whatever they hold; an option given twice is refused, and so is a value of
another kind. Only the fallback and the order may be null.
-/

namespace Phrasebook

namespace Config

open Json (Tree Numeral)

/-! ## Values of options -/

/-- Reads an option from its tree. -/
abbrev Decoder (α : Type) := Tree → Option α

/-- A text. -/
def text? : Decoder String
  | .string s => s
  | _ => none

/-- A text or null. -/
def optionalText? : Decoder (Option String)
  | .null => some none
  | .string s => s.map some
  | _ => none

/-- An array of texts. -/
def texts? : Decoder (List String)
  | .array items => items.mapM text?
  | _ => none

/-- A truth value. -/
def bool? : Decoder Bool
  | .bool b => some b
  | _ => none

/-- A natural number that fits 64 bits, written without a sign, a point and an exponent. -/
def natural? : Decoder Nat
  | .number n => if n.negative then none else n.whole?.map Int.toNat
  | _ => none

/-- The kind of capture with a name. -/
def kindOf? (name : String) : Option CaptureKind :=
  match name with
  | "object" => some .descriptor
  | "string" => some .id
  | _ => none

/-- A kind of capture, by its name or as an object that holds the name with null. -/
def kind? : Decoder CaptureKind
  | .string s => s.bind kindOf?
  | .object [(name, .null)] => name.bind kindOf?
  | _ => none

/-! ## Fields -/

/-- The values of the members that have one of the given names. -/
def valuesOf (names : List String) (members : List (Option String × Tree)) : List Tree :=
  (members.filter fun (name, _) => name.any names.contains).map Prod.snd

/-- The option with one of the given names, read by `decode`, or its default; giving it twice is refused. -/
def field? {α : Type} (members : List (Option String × Tree)) (names : List String) (decode : Decoder α)
    (default : Option α) : Option α :=
  match valuesOf names members with
  | [] => default
  | [value] => decode value
  | _ => none

/-- The option at an index of an array, or its default. -/
def item? {α : Type} (items : List Tree) (index : Nat) (decode : Decoder α) (default : Option α) : Option α :=
  match items[index]? with
  | some value => decode value
  | none => default

/-- A pattern, as an object with two members or as an array of two items. -/
def pattern? : Decoder Pattern
  | .object members =>
    if members.all (·.1.isSome) then do
      let regex ← field? members ["regex", "pattern"] text? none
      let kind ← field? members ["parser", "kind"] kind? none
      return ⟨regex, kind⟩
    else none
  | .array [regex, kind] => return ⟨← text? regex, ← kind? kind⟩
  | _ => none

/-- An array of patterns. -/
def patterns? : Decoder (List Pattern)
  | .array items => items.mapM pattern?
  | _ => none

/-- Where the options are found in a tree: each by its names, its place, its decoder and its default. -/
abbrev Source := {α : Type} → List String → Nat → Decoder α → α → Option α

/-- The options found by a source. -/
def ofSource? (option : Source) : Option Config := do
  return {
    sourceDirs := ← option ["sourceDir"] 0 texts? standard.sourceDirs
    localesDir := ← option ["localesDir"] 1 text? standard.localesDir
    defaultLanguage := ← option ["defaultLanguage"] 2 text? standard.defaultLanguage
    outputDir := ← option ["outputDir"] 3 text? standard.outputDir
    extensions := ← option ["extensions"] 4 texts? standard.extensions
    locales := ← option ["locales"] 5 texts? standard.locales
    fallback := ← option ["fallback"] 6 optionalText? standard.fallback
    sortBy := ← option ["sortBy"] 7 optionalText? standard.sortBy
    reserveKeys := ← option ["reserveKeys"] 8 bool? standard.reserveKeys
    emptyTags := ← option ["emptyTags"] 9 bool? standard.emptyTags
    jsonIndent := ← option ["jsonIntend", "jsonIndent"] 10 natural? standard.jsonIndent
    patterns := ← option ["patterns"] 11 patterns? standard.patterns
    ignores := ← option ["ignores"] 12 texts? standard.ignores }

/-- How many options there are. -/
def optionCount : Nat := 13

/-- The options written in a tree. -/
def ofTree? : Tree → Option Config
  | .object members =>
    if members.all (·.1.isSome) then
      ofSource? fun names _ decode default => field? members names decode (some default)
    else none
  | .array items =>
    if items.length ≤ optionCount then ofSource? fun _ index decode default => item? items index decode (some default)
    else none
  | _ => none

/-- The options written in a text. -/
def read? (text : String) : Option Config := (Tree.read? text).bind ofTree?

end Config

end Phrasebook
