import Phrasebook.Files.Tree

/-!
# Changed files

The files that differ between two states of a file system.
-/

namespace Phrasebook

mutual

/-- The files in an entry with their places. -/
def Entry.filesFrom (place : Place) : Entry → List (Place × ByteArray)
  | .file content => [(place, content)]
  | .link _ => []
  | .directory entries => Entry.filesFromAll place entries

/-- The files in the entries of a directory. -/
def Entry.filesFromAll (place : Place) : List (String × Entry) → List (Place × ByteArray)
  | [] => []
  | (name, entry) :: entries => Entry.filesFrom (place ++ [name]) entry ++ Entry.filesFromAll place entries

end

namespace FileSystem

/-- The files in a tree, with their places. -/
def files (fs : FileSystem) : List (Place × ByteArray) := fs.tree.filesFrom []

/-- The content of the file at a place. -/
def fileAt? (fs : FileSystem) (place : Place) : Option ByteArray :=
  match fs.tree.at? place with
  | some (.file content) => some content
  | _ => none

/-- The files that are new or have another content than before. -/
def changedSince (after before : FileSystem) : List (Place × ByteArray) :=
  after.files.filter fun (place, content) => before.fileAt? place != some content

end FileSystem

end Phrasebook
