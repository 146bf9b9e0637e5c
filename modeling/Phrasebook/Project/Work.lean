import Phrasebook.Failure
import Phrasebook.Files.Tree
import Phrasebook.Warning

/-!
# Work

Work is done on a file system, may tell warnings, and either succeeds or stops with a failure. What has been written
before a failure stays written.
-/

namespace Phrasebook

/-- What work comes to. -/
structure Outcome (α : Type) where
  result : Except Failure α
  fs : FileSystem
  warnings : List Warning

/-- Work on a file system. -/
def Work (α : Type) := FileSystem → Outcome α

namespace Work

/-- Does the work on a file system. -/
def run {α : Type} (w : Work α) (fs : FileSystem) : Outcome α := w fs

instance : Monad Work where
  pure a := fun fs => ⟨.ok a, fs, []⟩
  bind w f := fun fs =>
    let first := w fs
    match first.result with
    | .error e => ⟨.error e, first.fs, first.warnings⟩
    | .ok a =>
      let second := f a first.fs
      ⟨second.result, second.fs, first.warnings ++ second.warnings⟩

/-- The file system as it is. -/
def files : Work FileSystem := fun fs => ⟨.ok fs, fs, []⟩

/-- Tells a warning. -/
def warn (w : Warning) : Work Unit := fun fs => ⟨.ok (), fs, [w]⟩

/-- Stops. -/
def fail {α : Type} (e : Failure) : Work α := fun fs => ⟨.error e, fs, []⟩

/-- A result that needs no file. -/
def ofExcept {α : Type} (x : Except Failure α) : Work α := fun fs => ⟨x, fs, []⟩

/-- A result with its warnings. -/
def ofLogged {α : Type} (x : Logged α) : Work α := fun fs => ⟨.ok x.value, fs, x.warnings⟩

/-- Makes a directory and those around it, or stops after those that can be made. -/
def makeDirectory (p : Path) : Work Unit := fun fs =>
  let (made, isThere) := fs.withDirectory p
  ⟨if isThere then .ok () else .error (.directoryNotCreated p.text), made, []⟩

/-- Writes a text to a file, or stops where that is impossible. -/
def writeText (p : Path) (text : String) : Work Unit := fun fs =>
  match fs.write? p (Text.toBytes text) with
  | some written => ⟨.ok (), written, []⟩
  | none => ⟨.error (.fileNotWritten p.text), fs, []⟩

end Work

end Phrasebook
