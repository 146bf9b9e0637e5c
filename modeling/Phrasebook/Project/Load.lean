import Phrasebook.Project.ConfigReader
import Phrasebook.Project.Work

/-!
# Finding the configuration

The configuration file is looked for in a directory and those around it, but not beyond one that holds a repository. The
directory where it is found is the root of the project; without a file, the default options hold and the search's start
is the root.
-/

namespace Phrasebook

/-- A configuration and where it comes from. -/
structure LoadedConfig where
  config : Config
  /-- The file, unless the options are the defaults. -/
  path : Option Path
  deriving DecidableEq, Repr

namespace LoadedConfig

/-- The name of a configuration file. -/
def fileName : String := ".intlrc.json"

/-- What marks the directory of a repository. -/
def repositoryMark : String := ".git"

/-- The configuration file in a directory or one of at most `steps` around it. -/
def findFrom? (fs : FileSystem) (steps : Nat) (dir : Path) : Option Path :=
  if fs.exists? (dir.join fileName) then some (dir.join fileName)
  else if fs.exists? (dir.join repositoryMark) then none
  else match steps, dir.parent? with
    | steps + 1, some parent => findFrom? fs steps parent
    | _, _ => none

/-- The configuration file for a directory. Every step outward shortens the path. -/
def find? (fs : FileSystem) (start : Path) : Option Path := findFrom? fs start.text.length start

/-- The configuration for a directory. -/
def load (fs : FileSystem) (start : Path) : Except Failure LoadedConfig :=
  match find? fs start with
  | none => .ok ⟨.standard, none⟩
  | some p =>
    match fs.readText? p with
    | none => .error (.unreadableConfig p.text)
    | some text =>
      match Config.read? text with
      | none => .error (.malformedConfig p.text)
      | some config => .ok ⟨config, some p⟩

/-- The directory from which the paths of a configuration are seen. -/
def root (loaded : LoadedConfig) (start : Path) : Path := (loaded.path.bind Path.parent?).getD start

end LoadedConfig

end Phrasebook
