import Phrasebook.Catalogue.Basic
import Phrasebook.Dictionary.Order
import Phrasebook.Json.Reader
import Phrasebook.Json.Writer
import Phrasebook.Project.Work

/-!
# Locale files

Each locale has a file with an object of ids and values. For extraction it is a dictionary, of which all values are
kept; for formatting only the texts count.
-/

namespace Phrasebook

namespace Locales

/-- The name of the file of a locale. -/
def fileName (locale : String) : String := locale ++ ".json"

/-- The dictionary in a file; nothing if there is no file. -/
def readDictionary (fs : FileSystem) (p : Path) : Except Failure (Option Dictionary) :=
  if !fs.exists? p then .ok none
  else match fs.readText? p with
    | none => .error (.unreadableLocale p.text)
    | some text =>
      match Json.read? text with
      | none => .error (.malformedLocale p.text)
      | some (.object members) => .ok (some (.ofList members))
      | some _ => .error (.localeNotObject p.text)

/-- The texts of a dictionary. -/
def templatesOf (d : Dictionary) : Templates := d.filterMap Json.text?

/-- The warnings about the values of a dictionary that are not texts. -/
def warningsOf (p : Path) (d : Dictionary) : List Warning :=
  d.entries.filterMap fun (id, value) =>
    if value.text?.isSome then none else some (.messageNotText p.text id value.compact)

/-- The templates in a file; nothing if there is no file. -/
def readTemplates (fs : FileSystem) (p : Path) : Except Failure (Logged (Option Templates)) :=
  if !fs.exists? p then .ok (pure none)
  else match fs.readText? p with
    | none => .error (.unreadableLocale p.text)
    | some text =>
      match Json.readObject? text with
      | none => .error (.malformedLocale p.text)
      | some d => .ok ⟨some (templatesOf d), warningsOf p d⟩

/-- The catalogue with the templates of one more locale, if it has a file. -/
def load (dir : Path) (locales : OrderedMap Templates) (locale : String) : Work (OrderedMap Templates) := do
  let fs ← Work.files
  let templates ← Work.ofExcept (readTemplates fs (dir.join (fileName locale)))
  match ← Work.ofLogged templates with
  | some templates => return locales.insert locale templates
  | none => return locales

/-- The catalogue of the locales that have a file in a directory. -/
def loadAll (dir : Path) (locales : List String) : Work Catalogue :=
  return ⟨← locales.foldlM (load dir) .empty⟩

/-- Writes a value to a file, whose directory is made if need be. -/
def writeJson (p : Path) (value : Json) (indent : Nat) : Work Unit := do
  match p.parent? with
  | some parent => Work.makeDirectory parent
  | none => pure ()
  Work.writeText p (value.render indent)

end Locales

end Phrasebook
