import Phrasebook.CommandLine.Arguments
import Phrasebook.CommandLine.Summary
import Phrasebook.Context.Message
import Phrasebook.Message.VariablesJson
import Phrasebook.Project.Load

/-!
# Commands

What the commands do, as work that gives what is printed.
-/

namespace Phrasebook

namespace CommandLine

/-- What a command prints, and whether it did what was asked. -/
structure Printed where
  done : Bool
  output : String
  errors : String
  deriving DecidableEq, Repr

/-- The exit code of a program that ends after printing. -/
def Printed.exitCode (p : Printed) : Nat := if p.done then 0 else 1

/-- The exit code of a program that ends with a failure. -/
def failureExitCode : Nat := 2

/-- A text on a line of its own, from a command that did what was asked. -/
def Printed.line (s : String) : Printed := ⟨true, s ++ "\n", ""⟩

/-- A project: the directory from which its paths are seen, and its options. -/
structure Project where
  root : Path
  config : Config

/-- The project for a directory, with the options of the command line in place of those of its configuration. -/
def loadProject (common : CommonOptions) : Work Project := do
  let fs ← Work.files
  let start := (common.path.map Path.mk).getD fs.currentPath
  let loaded ← Work.ofExcept (LoadedConfig.load fs start)
  let config := { loaded.config with
    localesDir := common.localesDir.getD loaded.config.localesDir
    defaultLanguage := common.defaultLanguage.getD loaded.config.defaultLanguage }
  return ⟨loaded.root start, config⟩

/-- The context of a project's locale files. -/
def Project.context (p : Project) : Work Context := do
  Work.ofExcept p.config.validate
  let catalogue ← Locales.loadAll (p.root.join p.config.localesDir) p.config.locales
  return .ofCatalogue catalogue p.config.defaultLanguage

/-- Extracts messages and prints a summary. -/
def runExtract (common : CommonOptions) (sourceDirs : List String) (outputDir : Option String) (locales : List String)
    (fallback sortBy : Option String) : Work Printed := do
  let project ← loadProject common
  let c := project.config
  let config := { c with
    sourceDirs := if sourceDirs.isEmpty then c.sourceDirs else sourceDirs
    outputDir := outputDir.getD c.outputDir
    locales := if locales.isEmpty then c.locales else locales
    fallback := fallback <|> c.fallback
    sortBy := sortBy <|> c.sortBy }
  let report ← extractMessages project.root config
  return ⟨true, report.summary common.verbose, ""⟩

/-- The values given on the command line, if there are any. -/
def givenValues : Option String → Except Failure (Option Variables)
  | none => .ok none
  | some text =>
    match Variables.read? text with
    | some values => .ok (some values)
    | none => .error .invalidValues

/-- Prints a message. -/
def runFormat (common : CommonOptions) (id : String) (values locale fallback defaultMessage : Option String) :
    Work Printed := do
  let project ← loadProject common
  let values ← Work.ofExcept (givenValues values)
  let context ← project.context
  let text ← Work.ofLogged (context.formatMessage ⟨id, defaultMessage⟩ values locale fallback)
  return .line text

/-- Prints the values from which a message was formatted. -/
def runParse (common : CommonOptions) (id text : String) (locale : Option String) : Work Printed := do
  let project ← loadProject common
  let context ← project.context
  return .line ((Variables.toJson (context.recoverVariables id text locale)).text 2)

/-- Writes a configuration file, unless there is one. -/
def runInit : Work Printed := do
  let fs ← Work.files
  let p := fs.currentPath.join LoadedConfig.fileName
  if fs.exists? p then return ⟨false, "", "Error: " ++ LoadedConfig.fileName ++ " already exists\n"⟩
  else
    Work.writeText p (Config.standardText ++ "\n")
    return .line (Report.successMark ++ " Created " ++ LoadedConfig.fileName)

/-- Runs a command. -/
def Command.run : Command → Work Printed
  | .extract common sourceDirs outputDir locales fallback sortBy =>
    runExtract common sourceDirs outputDir locales fallback sortBy
  | .format common id values locale fallback defaultMessage =>
    runFormat common id values locale fallback defaultMessage
  | .parse common id text locale => runParse common id text locale
  | .init => runInit

end CommandLine

end Phrasebook
