import Phrasebook.Regex.Basic

/-!
# Expressions as written

What a text writes before flags are applied: characters, classes and properties by their names, sets in brackets,
groups, changes of flags, repetitions, sequences and alternatives. How deep an expression is nested is limited.
-/

namespace Phrasebook.Regex

/-- What can be said about how an expression is understood. -/
inductive Flag where
  | ignoreCase
  | multiLine
  | dotAll
  | swapGreed
  | unicode
  | crlf
  /-- White space and comments are passed over. -/
  | extended
  deriving DecidableEq, Repr

/-- Flags that are set or cleared, in the order in which they are written. -/
abbrev FlagChanges := List (Flag × Bool)

/-- What the letters `d`, `s` and `w` name. -/
inductive LetterClass where
  | digit
  | blank
  | word
  deriving DecidableEq, Repr

/-- A property by its name alone, or by its name and a value that characters have, or have not if it `differs`. -/
inductive PropertyName where
  | alone (name : List Char)
  | valued (name value : List Char) (differs : Bool)
  deriving DecidableEq, Repr

/-- The ways to combine two sets. -/
inductive SetOperator where
  | intersection
  | difference
  | symmetricDifference
  deriving DecidableEq, Repr

/-- A set in brackets. -/
inductive WrittenSet where
  | nothing
  | char (c : Char)
  | range (first last : Char)
  /-- A class of ASCII characters by its name. -/
  | ascii (set : CharSet) (negated : Bool)
  | letterClass (kind : LetterClass) (negated : Bool)
  | property (name : PropertyName) (negated : Bool)
  | bracket (negated : Bool) (inside : WrittenSet)
  | union (items : List WrittenSet)
  | operation (op : SetOperator) (left right : WrittenSet)

/-- An expression. -/
inductive Written where
  | nothing
  /-- A character, perhaps written as a byte by its two digits. -/
  | char (c : Char) (isByte : Bool)
  | dot
  | textStart
  | textEnd
  | lineStart
  | lineEnd
  | word (kind : WordAssertion)
  | letterClass (kind : LetterClass) (negated : Bool)
  | property (name : PropertyName) (negated : Bool)
  | bracket (negated : Bool) (inside : WrittenSet)
  /-- Flags for all that follows in the group. -/
  | flags (changes : FlagChanges)
  /-- A group with a number. -/
  | group (index : Nat) (inside : Written)
  /-- A group without a number, with flags of its own. -/
  | scope (changes : FlagChanges) (inside : Written)
  | repetition (least : Nat) (most : Option Nat) (lazily : Bool) (inside : Written)
  | sequence (items : List Written)
  | alternatives (branches : List Written)

/-! ## Nesting -/

mutual

/-- How deep a set in brackets is nested. -/
def WrittenSet.depth : WrittenSet → Nat
  | .bracket _ inside => inside.depth + 1
  | .union items => WrittenSet.depths items + 1
  | .operation _ left right => max left.depth right.depth + 1
  | _ => 0

/-- The depth of the deepest of several sets. -/
def WrittenSet.depths : List WrittenSet → Nat
  | [] => 0
  | item :: rest => max item.depth (WrittenSet.depths rest)

end

mutual

/-- How deep an expression is nested. -/
def Written.depth : Written → Nat
  | .bracket _ inside => inside.depth + 1
  | .group _ inside => inside.depth + 1
  | .scope _ inside => inside.depth + 1
  | .repetition _ _ _ inside => inside.depth + 1
  | .sequence items => Written.depths items + 1
  | .alternatives branches => Written.depths branches + 1
  | _ => 0

/-- The depth of the deepest of several expressions. -/
def Written.depths : List Written → Nat
  | [] => 0
  | item :: rest => max item.depth (Written.depths rest)

end

/-- How deep an expression may be nested. -/
def maxDepth : Nat := 250

/-- Several sets as one; a single one is itself. -/
def WrittenSet.ofList : List WrittenSet → WrittenSet
  | [] => .nothing
  | [item] => item
  | items => .union items

/-- Expressions that follow one another; a single one is itself. -/
def Written.ofItems : List Written → Written
  | [] => .nothing
  | [item] => item
  | items => .sequence items

/-- Alternatives; a single branch is itself. -/
def Written.ofBranches : List Written → Written
  | [branch] => branch
  | branches => .alternatives branches

end Phrasebook.Regex
