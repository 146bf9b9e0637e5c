import Phrasebook.Files.Path
import Phrasebook.OrderedMap
import Phrasebook.Text.Utf8

/-!
# File systems

A file system is a tree of directories, files and symbolic links, seen from a current directory. A path is followed step
by step: links are replaced by their targets, at most `maxLinks` of them, and a slash or a point after a name asks for a
directory. Names and paths have a greatest length, and the character zero is not allowed in them.

What exists is known by its place, the list of names that lead to it from the root without any link.
-/

namespace Phrasebook

/-- What a name in a directory stands for. -/
inductive Entry where
  | file (content : ByteArray)
  | link (target : String)
  | directory (entries : List (String × Entry))

/-- The names from the root to an entry. -/
abbrev Place := List String

namespace Entry

/-- The entries of a directory. -/
def children : Entry → List (String × Entry)
  | .directory entries => entries
  | _ => []

/-- The entry of a name in a directory. -/
def child? (e : Entry) (name : String) : Option Entry := OrderedMap.find name e.children

/-- Is the entry a directory? -/
def isDirectory : Entry → Bool
  | .directory _ => true
  | _ => false

/-- The entry at a place below this one. -/
def at? (e : Entry) : Place → Option Entry
  | [] => some e
  | name :: place => (e.child? name).bind (·.at? place)

/-- The entry with another one put at a place below it, whose parent is there. -/
def putAt (e new : Entry) : Place → Entry
  | [] => new
  | name :: place =>
    .directory (OrderedMap.put name (((e.child? name).getD (.directory [])).putAt new place) e.children)

end Entry

/-- A tree of entries, and the place from which relative paths start. -/
structure FileSystem where
  tree : Entry
  current : Place

/-- What following a path leads to. -/
inductive Target where
  /-- An entry that is there. -/
  | found (place : Place) (entry : Entry)
  /-- No entry, but the directory where it would be. -/
  | absent (parent : Place) (name : String)
  /-- No entry, and no directory for it. -/
  | nowhere
  /-- A file stands where a directory would be needed, there are too many links, or a name or the path is not one that
  an entry can have. -/
  | blocked

namespace FileSystem

/-- How many links are followed on the way of one path. -/
def maxLinks : Nat := 40

/-- How many bytes a name has at most. -/
def maxNameLength : Nat := 255

/-- How many bytes a path has at most. -/
def maxPathLength : Nat := 4095

/-- Can the text be a path? -/
def isPath (path : String) : Bool := path.utf8ByteSize ≤ maxPathLength && !path.toList.contains (Char.ofNat 0)

/-- The pieces of a path between its slashes. -/
def piecesOf (path : String) : List String := (Text.splitAt '/' path.toList).map String.ofList

/-- Where a link or a path begins: at the root if it is absolute. -/
def startOf (path : String) (current : Place) : Place := if path.toList.head? = some '/' then [] else current

/-- Do no steps remain that lead on? -/
def atEnd (pieces : List String) : Bool := pieces.all fun piece => piece == "" || piece == "."

/-- Follows pieces of a path from a place. The last link is followed if `follow` holds or something comes after it; where
a link is followed, `onLink` goes on from the directory that holds it, with its target and the pieces after it. -/
def walkWith (tree : Entry) (follow : Bool) (onLink : Place → String → List String → Target) (place : Place) :
    (pieces : List String) → Target
  | [] =>
    match tree.at? place with
    | some entry => .found place entry
    | none => .nowhere
  | piece :: rest =>
    match tree.at? place with
    | none => .nowhere
    | some entry =>
      if !entry.isDirectory then .blocked
      else if piece = "" ∨ piece = "." then walkWith tree follow onLink place rest
      else if piece = ".." then walkWith tree follow onLink place.dropLast rest
      else if maxNameLength < piece.utf8ByteSize then .blocked
      else match entry.child? piece with
        | none => if rest.isEmpty then .absent place piece else .nowhere
        | some (.link target) =>
          if rest.isEmpty && !follow then .found (place ++ [piece]) (.link target) else onLink place target rest
        | some _ => walkWith tree follow onLink (place ++ [piece]) rest

/-- Follows pieces of a path from a place; `links` is the number of links that may still be followed. -/
def walk (tree : Entry) (follow : Bool) : (links : Nat) → (place : Place) → (pieces : List String) → Target
  | 0 => walkWith tree follow fun _ _ _ => .blocked
  | links + 1 => walkWith tree follow fun place target rest =>
    if target = "" then .nowhere else walk tree follow links (startOf target place) (piecesOf target ++ rest)

/-- Follows a path. -/
def target (fs : FileSystem) (follow : Bool) (p : Path) : Target :=
  if p.text = "" then .nowhere
  else if !isPath p.text then .blocked
  else walk fs.tree follow maxLinks (startOf p.text fs.current) (piecesOf p.text)

/-- The entry that a path leads to, through links. -/
def entry? (fs : FileSystem) (p : Path) : Option Entry :=
  match fs.target true p with
  | .found _ entry => some entry
  | _ => none

/-- The entry that a path names; a link in the last place is itself an entry. -/
def entryItself? (fs : FileSystem) (p : Path) : Option Entry :=
  match fs.target false p with
  | .found _ entry => some entry
  | _ => none

/-- Does the path lead to something? -/
def exists? (fs : FileSystem) (p : Path) : Bool := (fs.entry? p).isSome

/-- Does the path lead to a directory? -/
def isDirectory (fs : FileSystem) (p : Path) : Bool := (fs.entry? p).any Entry.isDirectory

/-- The current directory as a path. -/
def currentPath (fs : FileSystem) : Path := ⟨"/" ++ String.intercalate "/" fs.current⟩

/-! ## Reading -/

/-- The bytes of the file that a path leads to. -/
def readBytes? (fs : FileSystem) (p : Path) : Option ByteArray :=
  match fs.entry? p with
  | some (.file content) => some content
  | _ => none

/-- The text of the file that a path leads to. -/
def readText? (fs : FileSystem) (p : Path) : Option String := (fs.readBytes? p).bind Text.ofBytes?

/-- The names in the directory that a path leads to. -/
def list? (fs : FileSystem) (p : Path) : Option (List String) :=
  match fs.entry? p with
  | some (.directory entries) => some (entries.map Prod.fst)
  | _ => none

/-! ## Writing -/

/-- The tree with an entry at a place. -/
def put (fs : FileSystem) (place : Place) (entry : Entry) : FileSystem :=
  { fs with tree := fs.tree.putAt entry place }

/-- Writes a file, which is created if its directory is there. -/
def write? (fs : FileSystem) (p : Path) (content : ByteArray) : Option FileSystem :=
  match fs.target true p with
  | .found place (.file _) => some (fs.put place (.file content))
  | .absent parent name => some (fs.put (parent ++ [name]) (.file content))
  | _ => none

/-- The path without slashes at its end, which do not matter where a directory is made. -/
def withoutEndSlashes (p : Path) : Path :=
  match Text.dropEndWhile (· == '/') p.text.toList with
  | [] => p
  | s => ⟨String.ofList s⟩

/-- Why a directory cannot be made. -/
inductive DirectoryError where
  /-- The directory around it is missing. -/
  | noParent
  | other

/-- Makes a directory in a directory that is there. -/
def makeDirectory (fs : FileSystem) (p : Path) : Except DirectoryError FileSystem :=
  match fs.target false (withoutEndSlashes p) with
  | .absent parent name => .ok (fs.put (parent ++ [name]) (.directory []))
  | .nowhere => .error .noParent
  | .found .. => .error .other
  | .blocked => .error .other

/-- Makes a directory and those around it, as far as they are missing, and tells whether it is there in the end. What
has been made stays even if not. `steps` bounds the number of those around it. -/
def makeDirectories (steps : Nat) (fs : FileSystem) (p : Path) : FileSystem × Bool :=
  if p.text = "" then (fs, true)
  else match fs.makeDirectory p with
    | .ok made => (made, true)
    | .error .other => (fs, fs.isDirectory p)
    | .error .noParent =>
      match steps, p.parent? with
      | steps + 1, some parent =>
        let (around, isThere) := makeDirectories steps fs parent
        if !isThere then (around, false)
        else match around.makeDirectory p with
          | .ok made => (made, true)
          | .error _ => (around, around.isDirectory p)
      | _, _ => (fs, false)

/-- Makes the directory of a path and those around it, and tells whether it is there in the end. -/
def withDirectory (fs : FileSystem) (p : Path) : FileSystem × Bool := makeDirectories p.text.length fs p

/-- The file system with the directories around a path, as far as they can be made. -/
def withDirectoriesAround (fs : FileSystem) (p : Path) : FileSystem :=
  match p.parent? with
  | some parent => (fs.withDirectory parent).1
  | none => fs

/-- The file system with a file and the directories around it, as far as they can be made. -/
def withFile (fs : FileSystem) (p : Path) (content : ByteArray) : FileSystem :=
  let around := fs.withDirectoriesAround p
  (around.write? p content).getD around

end FileSystem

end Phrasebook
