import Phrasebook.CommandLine.Commands
import Phrasebook.CommandLine.Help
import Phrasebook.Files.Changes

/-!
# The program

Reads the files of a project, runs a command on them, and writes the files that the command changed. The names of the
files come from the standard input, one a line; the files that the search for a configuration looks at in the
directories around the current one are found without being named.
-/

namespace Phrasebook

namespace Program

/-- The names of a place and of all places around it, as directories. -/
def directoriesAround (place : Place) : List String :=
  (List.range (place.length + 1)).map fun depth => String.join ((place.take depth).map ("/" ++ ·))

/-- The files that are looked for in every directory around the current one. -/
def searchedNames (current : Place) : List String :=
  (directoriesAround current).flatMap fun directory =>
    [directory ++ "/" ++ LoadedConfig.fileName, directory ++ "/" ++ LoadedConfig.repositoryMark,
      directory ++ "/" ++ LoadedConfig.repositoryMark ++ "/HEAD"]

/-- The file system without any file, seen from a place. -/
def emptyAt (current : Place) : FileSystem := ⟨(Entry.directory []).putAt (.directory []) current, current⟩

/-- The lines of a stream up to its end. -/
partial def readLines (input : IO.FS.Stream) : IO (List String) := do
  let line ← input.getLine
  if line.isEmpty then return []
  else return String.ofList (line.toList.filter (· != '\n')) :: (← readLines input)

/-- The content of a file, if it can be read. -/
def content? (name : String) : IO (Option ByteArray) := do
  try
    return some (← IO.FS.readBinFile name)
  catch _ => return none

/-- The file system with the named files as they are on the disk. -/
def addFiles (fs : FileSystem) (names : List String) : IO FileSystem :=
  names.foldlM (fun fs name => do
    match ← content? name with
    | some content => return fs.withFile ⟨name⟩ content
    | none => return fs) fs

/-- The files of the project. -/
def readProject : IO FileSystem := do
  let directory ← IO.currentDir
  let current := (FileSystem.piecesOf (toString directory)).filter (· != "")
  let found ← addFiles (emptyAt current) (searchedNames current)
  addFiles found (← readLines (← IO.getStdin))

/-- Writes a file to the disk. -/
def writeFile (place : Place) (content : ByteArray) : IO Unit := do
  IO.FS.createDirAll (String.join (place.dropLast.map ("/" ++ ·)))
  IO.FS.writeBinFile (String.join (place.map ("/" ++ ·))) content

/-- Runs a command and gives the exit code. -/
def runCommand (command : CommandLine.Command) : IO Nat := do
  let before ← readProject
  let outcome := command.run.run before
  for warning in outcome.warnings do
    IO.eprintln warning.line
  for (place, content) in outcome.fs.changedSince before do
    writeFile place content
  match outcome.result with
  | .ok printed =>
    IO.print printed.output
    IO.eprint printed.errors
    return printed.exitCode
  | .error failure =>
    IO.eprintln ("Error: " ++ failure.message)
    return CommandLine.failureExitCode

/-- Runs the program with its arguments and gives the exit code. -/
def run (args : List String) : IO Nat := do
  match CommandLine.read args (← IO.getEnv "INTL_PROJECT_DIR") with
  | .ok (some command) => runCommand command
  | .ok none =>
    IO.print CommandLine.help
    return 0
  | .error e =>
    if e.isRequest then IO.print e.message else IO.eprint e.message
    return e.exitCode

end Program

end Phrasebook

/-- The program. -/
def main (args : List String) : IO UInt32 := do
  return (← Phrasebook.Program.run args).toUInt32
