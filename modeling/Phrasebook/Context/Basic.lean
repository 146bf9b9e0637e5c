import Phrasebook.Catalogue.Basic
import Phrasebook.Message.Format
import Phrasebook.Template.Recover
import Phrasebook.Text.Quoted

/-!
# Contexts

A context is what messages are formatted in: a catalogue, a formatter, and the language used where a call names no
locale.
-/

namespace Phrasebook

/-- A catalogue together with the languages and the formatter it is used with. -/
structure Context where
  catalogue : Catalogue
  formatter : Formatter
  defaultLanguage : String
  language : String

namespace Context

/-- The language used where none is configured. -/
def standardLanguage : String := "en"

/-- The id under which a locale gives its name in its own language. -/
def nameId : String := "intl.language"

/-- A context for a default language, from which the gaps of the other locales are filled. -/
def ofCatalogue (catalogue : Catalogue) (defaultLanguage : String) : Context where
  catalogue := catalogue.fillGaps defaultLanguage
  formatter := .standard
  defaultLanguage := defaultLanguage
  language := defaultLanguage

/-- The context with another formatter. -/
def withFormatter (c : Context) (formatter : Formatter) : Context := { c with formatter }

/-- The context bound to another language. -/
def withLanguage (c : Context) (language : String) : Context := { c with language }

/-- The locale of a call: the one it names, or the language of the context. -/
def localeOf (c : Context) (locale : Option String) : String := locale.getD c.language

/-- The template of an id. -/
def lookup (c : Context) (id : String) (locale : Option String) : Option String :=
  c.catalogue.lookup id (c.localeOf locale)

/-- The values from which the message of an id was formatted, if they can be told. -/
def recoverVariables (c : Context) (id text : String) (locale : Option String) : Variables :=
  match c.lookup id locale with
  | some template => Template.recover template text
  | none => .empty

/-- The name of each locale that gives one. -/
def nativeNames (c : Context) : OrderedMap String := c.catalogue.locales.filterMap (·.get? nameId)

/-- Every locale with its name, or with its code where it gives none; ascending by code. -/
def languageList (c : Context) : List (String × String) :=
  (c.catalogue.locales.mapValues fun locale templates =>
    match templates.get? nameId with
    | some name => if name = "" then locale else name
    | none => locale).sorted.entries

/-- A summary of the context for its developer. -/
def summary (c : Context) : String :=
  "Intl \x7b default_language: " ++ Text.quoted c.defaultLanguage ++ ", language: " ++ Text.quoted c.language ++
    ", locales: [" ++ String.intercalate ", " (c.catalogue.locales.keys.map Text.quoted) ++ "], .. \x7d"

end Context

end Phrasebook
