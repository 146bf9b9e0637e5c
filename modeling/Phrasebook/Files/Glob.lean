import Phrasebook.Text.Read

/-!
# Globs

A glob describes paths. `?` is any character, `*` any text, `[…]` one character of a set and `[!…]` one that is not in
it; all of them match slashes as well. `**` is a whole step of a path and matches any number of steps. In matching, the
text is taken as a whole.
-/

namespace Phrasebook

open Text

namespace Glob

/-- A part of a set of characters. -/
inductive SetItem where
  | one (c : Char)
  | range (first last : Char)
  deriving DecidableEq, Repr

/-- A part of a glob. -/
inductive Token where
  | char (c : Char)
  | anyChar
  | anyText
  /-- Any number of steps of a path, each with its slash. -/
  | anySteps
  | within (items : List SetItem)
  | except (items : List SetItem)
  deriving DecidableEq, Repr

/-- Is the character the part or in it? -/
def SetItem.has (c : Char) : SetItem → Bool
  | .one d => c == d
  | .range first last => first ≤ c && c ≤ last

/-- Does the token match the one character? -/
def Token.matchesChar (c : Char) : Token → Bool
  | .char d => c == d
  | .anyChar => true
  | .anyText => false
  | .anySteps => false
  | .within items => items.any (·.has c)
  | .except items => !items.any (·.has c)

/-! ## Reading -/

/-- The items of a set. -/
def setItems : List Char → List SetItem
  | a :: '-' :: b :: rest => .range a b :: setItems rest
  | a :: rest => .one a :: setItems rest
  | [] => []

/-- Reads the characters of a set up to the bracket that closes it, which is not the first of them. -/
def readSet? (s : List Char) : Option (Read (List Char) s.length) :=
  match s with
  | [] => none
  | c :: rest => (readThrough? ']' rest).map fun inside => (inside.map (c :: ·)).afterOne

/-- Reads a set after its opening bracket. -/
def readBracket? (s : List Char) : Option (Read Token s.length) :=
  match s with
  | '!' :: rest =>
    (readSet? rest).map fun inside => (inside.map (.except ∘ setItems)).afterOne
  | s => (readSet? s).map fun inside => inside.map (.within ∘ setItems)

/-- Reads stars after a first one; `previous` is the character before that. Two stars must be a whole step, whose slash
they take with them; three are refused. -/
def readStars? (previous : Option Char) (s : List Char) : Option (Read Token (s.length + 1)) :=
  match s with
  | '*' :: '*' :: _ => none
  | '*' :: rest =>
    if previous.all (· == '/') then
      match rest with
      | [] => some (Read.first .anySteps '*' []).afterOne
      | '/' :: after => some (Read.first .anySteps '/' after).afterOne.afterOne
      | _ => none
    else none
  | s => some (Read.nothing .anyText s)

/-- The tokens of a glob; `previous` is the character before it. -/
def readTokens? (previous : Option Char) (s : List Char) : Option (List Token) :=
  match s with
  | [] => some []
  | c :: rest =>
    if c = '?' then (readTokens? (some c) rest).map (.anyChar :: ·)
    else if c = '*' then do
      let stars ← readStars? previous rest
      let tokens ← readTokens? (if stars.value = .anySteps then some '/' else some c) stars.rest
      return stars.value :: tokens
    else if c = '[' then do
      let set ← readBracket? rest
      let tokens ← readTokens? (some ']') set.rest
      return set.value :: tokens
    else (readTokens? (some c) rest).map (.char c :: ·)
  termination_by s.length
  decreasing_by
    · exact Nat.lt_succ_self _
    · exact stars.below
    · exact Nat.lt_succ_of_lt set.below
    · exact Nat.lt_succ_self _

/-- The tokens of a glob, unless it is malformed. -/
def read? (s : String) : Option (List Token) := readTokens? none s.toList

/-- Is the text a well-formed glob? -/
def isValid (s : String) : Bool := (read? s).isSome

/-- Has the text a character that makes it a glob rather than a path? -/
def hasWildcard (s : String) : Bool := s.toList.any fun c => c == '*' || c == '?'

/-! ## Matching -/

/-- The text and all its ends. -/
def ends : List Char → List (List Char)
  | [] => [[]]
  | c :: rest => (c :: rest) :: ends rest

/-- What follows each slash of a text. -/
def afterSlashes : List Char → List (List Char)
  | [] => []
  | c :: rest => if c = '/' then rest :: afterSlashes rest else afterSlashes rest

/-- How a glob compares with a text. -/
inductive Verdict where
  | matched
  /-- A character differs, or some are left over. -/
  | differs
  /-- The text ends before the glob does, and so does every end of the text. -/
  | tooShort
  deriving DecidableEq, Repr

/-- The first verdict on texts of which each is an end of the one before, unless it is that a character differs. What is
too short for one is too short for those after it. -/
def firstVerdict (verdict : List Char → Verdict) : List (List Char) → Verdict
  | [] => .differs
  | s :: others =>
    match verdict s with
    | .differs => firstVerdict verdict others
    | v => v

/-- How tokens compare with a whole text. -/
def compare : List Token → List Char → Verdict
  | [], s => if s.isEmpty then .matched else .differs
  | .anyText :: tokens, s => firstVerdict (compare tokens) (ends s)
  | .anySteps :: tokens, s => firstVerdict (compare tokens) (s :: (afterSlashes s ++ [[]]))
  | token :: tokens, s =>
    match s with
    | [] => .tooShort
    | c :: rest => if token.matchesChar c then compare tokens rest else .differs

/-- Do the tokens match the text? -/
def matchesText (tokens : List Token) (s : String) : Bool := compare tokens s.toList = .matched

end Glob

end Phrasebook
