import Phrasebook.Text.Read

/-!
# Templates

A template is text with placeholders. `{name}` stands for a value; `{@'id'}` stands for another message, whose id may
itself hold `{name}`. Names are made of ASCII letters, digits and underscores, ids may hold points as well. A brace that
begins no placeholder is text.

`Template.pieces` cuts a template at its placeholders, from the left, and `Template.written` is the way back:
`Template.written_pieces`.
-/

namespace Phrasebook

open Text

/-- A part of the id in a reference. -/
inductive Fragment where
  | text (s : List Char)
  | name (n : String)
  deriving DecidableEq, Repr

/-- A part of a template. -/
inductive Piece where
  | text (s : List Char)
  /-- A placeholder for a value. -/
  | name (n : String)
  /-- A placeholder for another message. -/
  | reference (id : List Fragment)
  deriving DecidableEq, Repr

/-- A name between braces. -/
def bracedName (n : String) : List Char := '{' :: (n.toList ++ ['}'])

/-- How a part of an id is written. -/
def Fragment.written : Fragment → List Char
  | .text s => s
  | .name n => bracedName n

/-- How a part of a template is written. -/
def Piece.written : Piece → List Char
  | .text s => s
  | .name n => bracedName n
  | .reference id => ['{', '@', '\''] ++ (id.flatMap Fragment.written ++ ['\'', '}'])

/-- Is the part a placeholder? -/
def Piece.isPlaceholder : Piece → Bool
  | .text _ => false
  | .name _ => true
  | .reference _ => true

namespace Template

/-- May the character stand in a name? -/
def isNameChar (c : Char) : Bool := c.isAlphanum || c == '_'

/-- May the character stand in an id? -/
def isIdChar (c : Char) : Bool := isNameChar c || c == '.'

/-- Reads a name and the brace that closes it. -/
def readName? (s : List Char) : Option (Read String s.length) := do
  let name := Read.ofRun isNameChar s
  let closed ← readChar? '}' name.rest
  if name.value.isEmpty then none else return name.perhapsThen (closed.map fun _ => String.ofList name.value)

/-- A character of an id in front of its other parts. -/
def consFragment (c : Char) : List Fragment → List Fragment
  | .text s :: fragments => .text (c :: s) :: fragments
  | fragments => .text [c] :: fragments

/-- Reads the rest of the id in a reference, up to the apostrophe and the brace that close it. -/
def readId? (s : List Char) : Option (Read (List Fragment) s.length) :=
  match s with
  | [] => none
  | c :: rest =>
    if c = '\'' then
      (readChar? '}' rest).map fun closed => (closed.map fun _ => []).afterOne
    else if c = '{' then do
      let name ← readName? rest
      let id ← readId? name.rest
      return (name.andThen (id.map (.name name.value :: ·)).afterOne).afterOne
    else if isIdChar c then do
      let id ← readId? rest
      return (id.map (consFragment c)).afterOne
    else none
  termination_by s.length
  decreasing_by
    · exact Nat.lt_succ_of_lt name.below
    · exact Nat.lt_succ_self _

/-- Reads a placeholder after its opening brace. -/
def readPlaceholder? (s : List Char) : Option (Read Piece s.length) :=
  match s with
  | '@' :: '\'' :: rest => do
    let id ← readId? rest
    if id.value.isEmpty then none
    else return (id.map .reference).afterOne.afterOne
  | s => do
    let name ← readName? s
    return name.map .name

/-- A character of text in front of other parts. -/
def consPiece (c : Char) : List Piece → List Piece
  | .text s :: pieces => .text (c :: s) :: pieces
  | pieces => .text [c] :: pieces

/-- The parts of a template. -/
def pieces (s : List Char) : List Piece :=
  match s with
  | [] => []
  | c :: rest =>
    if c = '{' then
      match readPlaceholder? rest with
      | some placeholder => placeholder.value :: pieces placeholder.rest
      | none => consPiece c (pieces rest)
    else consPiece c (pieces rest)
  termination_by s.length
  decreasing_by
    · exact Nat.lt_succ_of_lt placeholder.below
    · exact Nat.lt_succ_self _
    · exact Nat.lt_succ_self _

/-- The template of the parts. -/
def written (pieces : List Piece) : List Char := pieces.flatMap Piece.written

/-! ## Nothing is lost -/

theorem eq_of_readName? {s : List Char} {name : Read String s.length} (h : readName? s = some name) :
    s = name.value.toList ++ '}' :: name.rest := by
  simp only [readName?, Option.bind_eq_bind, Option.bind_eq_some_iff] at h
  obtain ⟨closed, hclosed, h⟩ := h
  split at h
  · cases h
  · obtain rfl := Option.some.inj h
    have hs := List.takeWhile_append_dropWhile (p := isNameChar) (l := s)
    rw [show s.dropWhile isNameChar = '}' :: closed.rest from eq_of_readChar? hclosed] at hs
    rw [Read.value_perhapsThen, Read.value_map, String.toList_ofList]
    exact hs.symm

theorem written_consFragment (c : Char) (id : List Fragment) :
    (consFragment c id).flatMap Fragment.written = c :: id.flatMap Fragment.written := by
  unfold consFragment
  split <;> simp [Fragment.written]

theorem eq_of_readId? {s : List Char} {id : Read (List Fragment) s.length} (h : readId? s = some id) :
    s = id.value.flatMap Fragment.written ++ '\'' :: '}' :: id.rest := by
  fun_induction readId? s with
  | case1 | case5 => cases h
  | case2 rest =>
    obtain ⟨closed, hclosed, rfl⟩ := Option.map_eq_some_iff.mp h
    exact congrArg (_ :: ·) (eq_of_readChar? hclosed)
  | case3 rest _ ih =>
    simp only [Option.bind_eq_bind, Option.bind_eq_some_iff] at h
    obtain ⟨name, hname, id', hid, h⟩ := h
    obtain rfl := Option.some.inj h
    have hn := eq_of_readName? hname
    rw [ih name hid] at hn
    simp [Fragment.written, bracedName, hn]
  | case4 c rest _ _ _ ih =>
    simp only [Option.bind_eq_bind, Option.bind_eq_some_iff] at h
    obtain ⟨id', hid, h⟩ := h
    obtain rfl := Option.some.inj h
    simp [written_consFragment, ← ih hid]

theorem eq_of_readPlaceholder? {s : List Char} {placeholder : Read Piece s.length}
    (h : readPlaceholder? s = some placeholder) : '{' :: s = placeholder.value.written ++ placeholder.rest := by
  unfold readPlaceholder? at h
  split at h
  · simp only [Option.bind_eq_bind, Option.bind_eq_some_iff] at h
    obtain ⟨id, hid, h⟩ := h
    split at h
    · cases h
    · obtain rfl := Option.some.inj h
      simp [Piece.written, eq_of_readId? hid]
  · simp only [Option.bind_eq_bind, Option.bind_eq_some_iff] at h
    obtain ⟨name, hname, h⟩ := h
    obtain rfl := Option.some.inj h
    simp [Piece.written, bracedName, eq_of_readName? hname]

theorem written_consPiece (c : Char) (pieces : List Piece) : written (consPiece c pieces) = c :: written pieces := by
  unfold consPiece
  split <;> simp [written, Piece.written]

/-- Cutting a template into parts loses nothing. -/
theorem written_pieces (s : List Char) : written (pieces s) = s := by
  fun_induction pieces s with
  | case1 => rfl
  | case2 rest placeholder h ih =>
    rw [written, List.flatMap_cons, ← written, ih]
    exact (eq_of_readPlaceholder? h).symm
  | case3 rest h ih => rw [written_consPiece, ih]
  | case4 c rest h ih => rw [written_consPiece, ih]

end Template

end Phrasebook
