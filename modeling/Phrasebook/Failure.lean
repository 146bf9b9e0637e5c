/-!
# Failures

What stops the work: a configuration that makes no sense, or a file that cannot be read, understood or written. Paths
are given as they are spelled.
-/

namespace Phrasebook

/-- Why the work stopped. -/
inductive Failure where
  | invalidOrder (name : String)
  | invalidRegex (pattern : String)
  | noCaptureGroup (pattern : String)
  | invalidIgnore (pattern : String)
  | invalidSourceGlob (pattern : String)
  | indentTooLarge (indent : Nat)
  | emptyDefaultLanguage
  | invalidLocale (option locale : String)
  | unreadableLocale (path : String)
  | malformedLocale (path : String)
  | localeNotObject (path : String)
  | unreadableSource (path : String)
  | unreadableConfig (path : String)
  | malformedConfig (path : String)
  | directoryNotCreated (path : String)
  | fileNotWritten (path : String)
  | invalidValues
  deriving DecidableEq, Repr

namespace Failure

/-- A text in double quotes. -/
def inQuotes (s : String) : String := "\"" ++ s ++ "\""

/-- The largest indentation of the files that are written. -/
def maxIndent : Nat := 10

/-- The wording of a failure. -/
def message : Failure → String
  | .invalidOrder name =>
    "Invalid 'sortBy': " ++ inQuotes name ++ " (expected \"keys\", \"source\" or \"none\")"
  | .invalidRegex pattern => "Invalid regex in 'patterns': " ++ inQuotes pattern
  | .noCaptureGroup pattern => "Pattern in 'patterns' has no capture group: " ++ inQuotes pattern
  | .invalidIgnore pattern => "Invalid glob pattern in 'ignores': " ++ inQuotes pattern
  | .invalidSourceGlob pattern => "Invalid glob pattern in 'sourceDir': " ++ inQuotes pattern
  | .indentTooLarge indent =>
    "Invalid 'jsonIntend': " ++ toString indent ++ " (must be at most " ++ toString maxIndent ++ ")"
  | .emptyDefaultLanguage => "Invalid 'defaultLanguage': must not be empty"
  | .invalidLocale option locale => "Invalid locale in '" ++ option ++ "': " ++ inQuotes locale
  | .unreadableLocale path => "Failed to read locale file: " ++ path
  | .malformedLocale path => "Failed to parse locale file: " ++ path
  | .localeNotObject path => "Root of locale file must be an object: " ++ path
  | .unreadableSource path => "Failed to read source file: " ++ path
  | .unreadableConfig path => "Failed to read config file: " ++ path
  | .malformedConfig path => "Failed to parse config file: " ++ path
  | .directoryNotCreated path => "Failed to create directory: " ++ path
  | .fileNotWritten path => "Failed to write file: " ++ path
  | .invalidValues => "Invalid --values: expected a JSON object of strings and numbers"

end Failure

end Phrasebook
