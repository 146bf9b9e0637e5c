import Phrasebook.Files.Expand
import Phrasebook.Warning

/-!
# Finding source files

The files below the source directories, without those under a hidden name, those that an ignore pattern matches and
those of other extensions; ascending by path, and each once.
-/

namespace Phrasebook

/-- Where to look for files and which to keep. -/
structure FileFilter where
  sourceDirs : List String
  ignores : List String
  extensions : List String

/-- The files that were found, and how many paths could not be looked at. -/
structure Discovered where
  files : List Path
  skipped : Nat

namespace Discover

/-- Is the name hidden? -/
def isHidden (name : String) : Bool := name.toList.head? = some '.'

mutual

/-- The files in an entry that was reached by a path, without hidden ones below it. Links are not followed. -/
def filesIn (p : Path) : Entry → List Path
  | .file _ => [p]
  | .link _ => []
  | .directory entries => filesInAll p entries

/-- The files in the entries of a directory. -/
def filesInAll (p : Path) : List (String × Entry) → List Path
  | [] => []
  | (name, entry) :: entries =>
    (if isHidden name then [] else filesIn (p.join name) entry) ++ filesInAll p entries

end

/-- The files below a source directory, which may be a link; nothing if it is not there. -/
def filesBelow? (fs : FileSystem) (p : Path) : Option (List Path) :=
  match fs.entryItself? p with
  | some (.link _) =>
    match fs.entry? p with
    | some (.directory entries) => some (filesInAll p entries)
    | some _ => some []
    | none => none
  | some entry => some (filesIn p entry)
  | none => none

/-- The directories that a configured source directory stands for: those a glob describes, or the one named. -/
def sourceRoots (fs : FileSystem) (root : Path) (dir : String) : Logged (List Path) :=
  let p := root.join dir
  if Glob.hasWildcard dir then
    match Glob.expand? fs p.text with
    | some found => pure (found.filter fs.isDirectory)
    | none => do
      Logged.warn (.invalidSourceGlob dir)
      return []
  else if fs.exists? p then pure [p]
  else do
    Logged.warn (.sourceDirectoryMissing p.text)
    return []

/-- The directories to look in; the root where none are configured. -/
def allSourceRoots (fs : FileSystem) (root : Path) (dirs : List String) : Logged (List Path) :=
  if dirs.isEmpty then pure [root] else return (← dirs.mapM (sourceRoots fs root)).flatten

/-- The ignore patterns; those that are malformed are left out. -/
def ignoreGlobs : List String → Logged (List (List Glob.Token))
  | [] => pure []
  | text :: texts =>
    match Glob.read? text with
    | some glob => return glob :: (← ignoreGlobs texts)
    | none => do
      Logged.warn (.invalidIgnore text)
      ignoreGlobs texts

/-- Does a pattern match the path, either as seen from the root or as it is spelled? -/
def isIgnored (root : Path) (globs : List (List Glob.Token)) (p : Path) : Bool :=
  globs.any fun glob => Glob.matchesText glob (p.relativeTo root) || Glob.matchesText glob p.text

/-- An extension without points in front. -/
def plainExtension (e : String) : String := String.ofList (e.toList.dropWhile (· == '.'))

/-- Has the path one of the extensions? A star, or no extension at all, stands for any. -/
def hasExtension (extensions : List String) (p : Path) : Bool :=
  extensions.isEmpty || extensions.contains "*" ||
    (p.extension?).any fun e => extensions.any fun wanted => plainExtension wanted == e

/-- The files below one source directory that are kept. -/
def keptBelow (fs : FileSystem) (root : Path) (globs : List (List Glob.Token)) (extensions : List String)
    (dir : Path) : Logged Discovered :=
  match filesBelow? fs dir with
  | some files => pure ⟨files.filter fun p => !isIgnored root globs p && hasExtension extensions p, 0⟩
  | none => do
    Logged.warn .inaccessiblePath
    return ⟨[], 1⟩

/-- The paths without those that are the same as the one before. -/
def dropRepeated : List Path → List Path
  | [] => []
  | [p] => [p]
  | p :: q :: paths => if p.same q then dropRepeated (p :: paths) else p :: dropRepeated (q :: paths)
  termination_by paths => paths.length

end Discover

/-- The source files of a project. -/
def discover (fs : FileSystem) (root : Path) (filter : FileFilter) : Logged Discovered := do
  let globs ← Discover.ignoreGlobs filter.ignores
  let roots ← Discover.allSourceRoots fs root filter.sourceDirs
  let kept ← roots.mapM (Discover.keptBelow fs root globs filter.extensions)
  let files := Discover.dropRepeated ((kept.flatMap Discovered.files).mergeSort Path.le)
  return ⟨files, kept.foldl (fun n d => n + d.skipped) 0⟩

end Phrasebook
