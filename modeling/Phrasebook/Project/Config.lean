import Phrasebook.Context.Basic
import Phrasebook.Dictionary.Order
import Phrasebook.Files.Glob
import Phrasebook.Json.Writer
import Phrasebook.Source.Rule

/-!
# Configuration

What an extraction depends on: where the sources and the locale files are, which locales there are, how messages are
found and how dictionaries are written. Every option has a default.
-/

namespace Phrasebook

/-- The options of a project. -/
structure Config where
  sourceDirs : List String
  localesDir : String
  defaultLanguage : String
  outputDir : String
  extensions : List String
  locales : List String
  fallback : Option String
  sortBy : Option String
  reserveKeys : Bool
  emptyTags : Bool
  jsonIndent : Nat
  patterns : List Pattern
  ignores : List String
  deriving DecidableEq, Repr

namespace Config

/-- The options where none are given. -/
def standard : Config where
  sourceDirs := []
  localesDir := "locales"
  defaultLanguage := Context.standardLanguage
  outputDir := "locales/.extract"
  extensions := ["js", "jsx", "ts", "tsx"]
  locales := ["en", "es", "fr", "it", "ja", "ko", "ru", "zh-cn", "zh-hk"]
  fallback := none
  sortBy := some "keys"
  reserveKeys := true
  emptyTags := true
  jsonIndent := 4
  patterns := Pattern.standard
  ignores := ["**/node_modules/**"]

/-! ## As JSON -/

/-- Texts as an array. -/
def textsJson (texts : List String) : Json := .array (texts.map .string)

/-- A text that may be missing. -/
def optionJson : Option String → Json
  | some s => .string s
  | none => .null

/-- The name of what a rule captures. -/
def kindName : CaptureKind → String
  | .descriptor => "object"
  | .id => "string"

/-- A pattern as an object. -/
def patternJson (p : Pattern) : Json := .object [("regex", .string p.regex), ("parser", .string (kindName p.kind))]

/-- The options as an object. -/
def toJson (c : Config) : Json := .object [
  ("sourceDir", textsJson c.sourceDirs),
  ("localesDir", .string c.localesDir),
  ("defaultLanguage", .string c.defaultLanguage),
  ("outputDir", .string c.outputDir),
  ("extensions", textsJson c.extensions),
  ("locales", textsJson c.locales),
  ("fallback", optionJson c.fallback),
  ("sortBy", optionJson c.sortBy),
  ("reserveKeys", .bool c.reserveKeys),
  ("emptyTags", .bool c.emptyTags),
  ("jsonIntend", .integer c.jsonIndent),
  ("patterns", .array (c.patterns.map patternJson)),
  ("ignores", textsJson c.ignores)]

/-- The text of a configuration file with the default options, without a line break at its end. -/
def standardText : String := standard.toJson.text 2

/-! ## Validity -/

/-- The order of keys that the options ask for. -/
def keyOrder (c : Config) : Except Failure KeyOrder := KeyOrder.ofOption c.sortBy

/-- Locales become names of files, so they may not lead out of their directory. -/
def checkLocale (option locale : String) : Except Failure Unit :=
  if locale = "" ∨ locale = "." ∨ locale = ".." ∨ locale.toList.any (fun c => c == '/' || c == '\\') then
    .error (.invalidLocale option locale)
  else .ok ()

/-- Every text that needs to be a glob is one. -/
def checkGlobs (failure : String → Failure) (texts : List String) : Except Failure Unit :=
  texts.forM fun text => if Glob.isValid text then .ok () else .error (failure text)

/-- Makes sure that the options make sense, before any file is touched. -/
def validate (c : Config) : Except Failure Unit := do
  let _ ← c.keyOrder
  let _ ← Pattern.compileAll c.patterns
  checkGlobs .invalidIgnore c.ignores
  checkGlobs .invalidSourceGlob (c.sourceDirs.filter Glob.hasWildcard)
  if Failure.maxIndent < c.jsonIndent then .error (.indentTooLarge c.jsonIndent)
  if (Text.trim c.defaultLanguage.toList).isEmpty then .error .emptyDefaultLanguage
  checkLocale "defaultLanguage" c.defaultLanguage
  c.fallback.forM (checkLocale "fallback")
  c.locales.forM (checkLocale "locales")

end Config

end Phrasebook
