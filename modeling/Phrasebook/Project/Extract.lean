import Phrasebook.Dictionary.Merge
import Phrasebook.Files.Discover
import Phrasebook.Project.Artifacts
import Phrasebook.Project.Config
import Phrasebook.Project.Locales

/-!
# Extraction

The source files of a project are found and scanned, and the ids in them are merged into the dictionary of every locale.
Everything is read and merged before anything is written, so that a file that cannot be understood leaves all others as
they are.
-/

namespace Phrasebook

/-- What an extraction did to one locale. -/
structure LocaleReport where
  lang : String
  /-- As seen from the root of the project. -/
  path : Path
  total : Nat
  added : Nat
  filled : Nat
  removed : Nat
  deriving DecidableEq, Repr

/-- What an extraction did. -/
structure Report where
  filesProcessed : Nat
  messagesExtracted : Nat
  filesWithMessages : Nat
  parseFailures : Nat
  skippedPaths : Nat
  templatePath : Path
  messageMapPath : Path
  fileMapPath : Path
  locales : List LocaleReport
  deriving DecidableEq, Repr

namespace Extract

/-- Reads a source file, leniently, with its name as seen from the root. -/
def readSource (fs : FileSystem) (root p : Path) : Except Failure (String × String) :=
  match fs.readBytes? p with
  | some bytes => .ok (p.relativeTo root, Text.ofBytes bytes)
  | none => .error (.unreadableSource p.text)

/-- The result after scanning one more file. -/
def scanFile (fs : FileSystem) (root : Path) (rules : List Rule) (result : ScanResult) (p : Path) :
    Work ScanResult := do
  let (name, content) ← Work.ofExcept (readSource fs root p)
  Work.ofLogged (Scan.scanText rules result name content)

/-- The result of scanning files. -/
def scanFiles (root : Path) (files : List Path) (rules : List Rule) : Work ScanResult := do
  let fs ← Work.files
  files.foldlM (scanFile fs root rules) Scan.empty

/-- The dictionary of the fallback locale, if one is configured and has a file. -/
def readFallback (root : Path) (c : Config) : Work (Option Dictionary) := do
  match c.fallback with
  | none => return none
  | some locale =>
    let p := root.join ((Path.mk c.localesDir).join (Locales.fileName locale)).text
    let dictionary ← Work.ofExcept (Locales.readDictionary (← Work.files) p)
    if dictionary.isNone then Work.warn (.fallbackFileMissing p.text)
    return dictionary

/-- A merged locale: its name, its file as seen from the root, and what merging did. -/
structure Merged where
  lang : String
  path : Path
  outcome : MergeOutcome

/-- Merges what was found into a locale. -/
def mergeLocale (root : Path) (c : Config) (order : KeyOrder) (scan : ScanResult) (fallback : Option Dictionary)
    (lang : String) : Work Merged := do
  let p := (Path.mk c.localesDir).join (Locales.fileName lang)
  let existing ← Work.ofExcept (Locales.readDictionary (← Work.files) (root.join p.text))
  return ⟨lang, p, (existing.getD .empty).merge scan.messages.keys scan.defaultMessages fallback
    ⟨lang == c.defaultLanguage, c.emptyTags, c.reserveKeys, order⟩⟩

/-- Writes a merged locale. -/
def writeLocale (root : Path) (c : Config) (m : Merged) : Work LocaleReport := do
  Locales.writeJson (root.join m.path.text) (.object m.outcome.dictionary.entries) c.jsonIndent
  return ⟨m.lang, m.path, m.outcome.dictionary.size, m.outcome.added, m.outcome.filled, m.outcome.removed⟩

/-- Writes an artifact; gives its path as seen from the root. -/
def writeArtifact (root : Path) (c : Config) (name : String) (value : Json) : Work Path := do
  let p := (Path.mk c.outputDir).join name
  Locales.writeJson (root.join p.text) value c.jsonIndent
  return p

end Extract

open Extract in
/-- Extracts the messages of a project. -/
def extractMessages (root : Path) (c : Config) : Work Report := do
  Work.ofExcept c.validate
  let order ← Work.ofExcept c.keyOrder
  let rules ← Work.ofExcept (Pattern.compileAll c.patterns)
  let found ← Work.ofLogged (discover (← Work.files) root ⟨c.sourceDirs, c.ignores, c.extensions⟩)
  let scan ← scanFiles root found.files rules
  let fallback ← readFallback root c
  if !c.locales.contains c.defaultLanguage then Work.warn (.defaultLanguageNotConfigured c.defaultLanguage)
  let merged ← c.locales.mapM (mergeLocale root c order scan fallback)
  let locales ← merged.mapM (writeLocale root c)
  let templatePath ← writeArtifact root c Artifacts.templateName (Artifacts.template scan.messages.keys)
  let messageMapPath ← writeArtifact root c Artifacts.messageMapName (Artifacts.messageMap scan.messages)
  let fileMapPath ← writeArtifact root c Artifacts.fileMapName (Artifacts.fileMap scan.files)
  return {
    filesProcessed := scan.filesScanned
    messagesExtracted := scan.messages.size
    filesWithMessages := scan.files.size
    parseFailures := scan.parseFailures
    skippedPaths := found.skipped
    templatePath, messageMapPath, fileMapPath, locales }

end Phrasebook
