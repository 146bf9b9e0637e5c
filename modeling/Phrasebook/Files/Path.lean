import Phrasebook.Text.Basic

/-!
# Paths

A path is kept as it is spelled. It is compared by its components: slashes that follow one another count as one, a slash
at the end does not count, and neither does a point except at the start of a relative path.
-/

namespace Phrasebook

open Text

/-- A path as it is spelled. -/
structure Path where
  text : String
  deriving DecidableEq, Repr

/-- A step of a path. -/
inductive Component where
  | root
  | current
  | parent
  | name (s : String)
  deriving DecidableEq, Repr

/-- The spelling of a step. -/
def Component.text : Component → String
  | .root => "/"
  | .current => "."
  | .parent => ".."
  | .name s => s

/-- The rank of a step among steps of other kinds. -/
def Component.rank : Component → Nat
  | .root => 0
  | .current => 1
  | .parent => 2
  | .name _ => 3

/-- Does the first step not come after the second? Names are ordered by code points. -/
def Component.le : Component → Component → Bool
  | .name a, .name b => a ≤ b
  | a, b => a.rank ≤ b.rank

namespace Path

/-- A path as what comes before its names and the pieces between its slashes. -/
structure Spelling where
  /-- A slash, a point at the start of a relative path, or nothing. -/
  lead : List Char
  pieces : List (List Char)

/-- Is the piece one that does not count? -/
def isIdle (piece : List Char) : Bool := piece.isEmpty || piece == ['.']

/-- The parts of a path. -/
def spelling (p : Path) : Spelling :=
  match p.text.toList with
  | '/' :: rest => ⟨['/'], splitAt '/' rest⟩
  | ['.'] => ⟨['.'], []⟩
  | '.' :: '/' :: rest => ⟨['.'], [] :: splitAt '/' rest⟩
  | s => ⟨[], splitAt '/' s⟩

/-- The pieces with a slash between them. -/
def joinPieces (pieces : List (List Char)) : List Char := (pieces.intersperse ['/']).flatten

/-- The path of its parts. -/
def ofSpelling (s : Spelling) : Path := ⟨String.ofList (s.lead ++ joinPieces s.pieces)⟩

/-- The pieces without those at the end that do not count. -/
def trimPieces (pieces : List (List Char)) : List (List Char) := (pieces.reverse.dropWhile isIdle).reverse

/-- The step that a piece stands for, if it counts. -/
def pieceComponent? (piece : List Char) : Option Component :=
  if isIdle piece then none
  else if piece = ['.', '.'] then some .parent
  else some (.name (String.ofList piece))

/-- The steps that the lead stands for. -/
def leadComponents (lead : List Char) : List Component :=
  if lead = ['/'] then [.root] else if lead = ['.'] then [.current] else []

/-- The steps of a path. -/
def components (p : Path) : List Component :=
  leadComponents p.spelling.lead ++ p.spelling.pieces.filterMap pieceComponent?

/-- Does the path start at the root? -/
def isAbsolute (p : Path) : Bool := p.text.toList.head? = some '/'

/-- The path of `q` as seen from `p`: an absolute path replaces the other, and else a slash is put between the two
unless one is there or `p` is empty. -/
def join (p : Path) (q : String) : Path :=
  if q.toList.head? = some '/' then ⟨q⟩
  else if p.text = "" ∨ p.text.toList.getLast? = some '/' then ⟨p.text ++ q⟩
  else ⟨p.text ++ "/" ++ q⟩

/-- The path without its last step; the root and the empty path have none. -/
def parent? (p : Path) : Option Path :=
  let s := p.spelling
  let pieces := trimPieces s.pieces
  if pieces.isEmpty then if s.lead = ['.'] then some ⟨""⟩ else none
  else some (ofSpelling ⟨s.lead, trimPieces pieces.dropLast⟩)

/-- The last step, if it is a name. -/
def fileName? (p : Path) : Option String :=
  match p.components.getLast? with
  | some (.name s) => some s
  | _ => none

/-- What follows the last point of the last name, unless that point begins the name. -/
def extension? (p : Path) : Option String := do
  let name ← p.fileName?
  let reversed := name.toList.reverse
  let before := (reversed.dropWhile (· != '.')).drop 1
  if before.isEmpty then none else some (String.ofList (reversed.takeWhile (· != '.')).reverse)

/-- The list without a list that it begins with. -/
def dropPrefix? {α : Type} [DecidableEq α] : List α → List α → Option (List α)
  | [], s => some s
  | _ :: _, [] => none
  | a :: start, b :: s => if a = b then dropPrefix? start s else none

/-- The path as seen from a root, with single slashes; a path outside the root as it is spelled. -/
def relativeTo (p root : Path) : String :=
  match dropPrefix? root.components p.components with
  | some rest => String.intercalate "/" (rest.map Component.text)
  | none => p.text

/-- Do the steps of the first path not come after those of the second? -/
def leComponents : List Component → List Component → Bool
  | [], _ => true
  | _ :: _, [] => false
  | a :: as, b :: bs => if a = b then leComponents as bs else a.le b

/-- Does the first path not come after the second? -/
def le (p q : Path) : Bool := leComponents p.components q.components

/-- Are the two the same path, however they are spelled? -/
def same (p q : Path) : Bool := p.components == q.components

end Path

end Phrasebook
