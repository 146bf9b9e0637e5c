import Phrasebook.Regex.Spacing
import Phrasebook.Regex.Written
import Phrasebook.Unicode.Numeric

/-!
# How groups begin

A parenthesis begins a group with a number, a group with a number and a name, a group without a number whose flags may
differ, or a change of flags for all that follows. Looking around is not part of the notation.
-/

namespace Phrasebook.Regex

open Text Unicode

/-- What reading depends on and changes: whether white space stands for itself, and the numbers and names of groups. -/
structure Scope where
  spacing : Spacing
  groups : Nat
  names : List (List Char)

/-- How a parenthesis begins. -/
inductive GroupStart where
  /-- A group with the next number. -/
  | numbered
  | named (name : List Char)
  /-- A group without a number. -/
  | plain (changes : FlagChanges)
  /-- No group, but flags for all that follows. -/
  | directive (changes : FlagChanges)

/-- The flag of a letter. -/
def flag? (letter : Char) : Option Flag :=
  match letter with
  | 'i' => some .ignoreCase
  | 'm' => some .multiLine
  | 's' => some .dotAll
  | 'U' => some .swapGreed
  | 'u' => some .unicode
  | 'R' => some .crlf
  | 'x' => some .extended
  | _ => none

/-- The changes that letters describe: each at most once, and after one hyphen those to be cleared. -/
def flagChanges? (seen : List Char) (value : Bool) : List Char → Option FlagChanges
  | [] => if seen.head? = some '-' then none else some []
  | c :: rest =>
    if seen.contains c then none
    else if c = '-' then flagChanges? (c :: seen) false rest
    else do
      let flag ← flag? c
      let others ← flagChanges? (c :: seen) value rest
      return (flag, value) :: others

/-- The way of spacing after changes of flags. -/
def Spacing.after (sp : Spacing) (changes : FlagChanges) : Spacing :=
  match changes.find? (·.1 == .extended) with
  | some (_, true) => .free
  | some (_, false) => .significant
  | none => sp

/-- May the character stand in the name of a group? -/
def isGroupNameChar (first : Bool) (c : Char) : Bool :=
  if first then c == '_' || isAlphabetic c
  else c == '_' || c == '.' || c == '[' || c == ']' || isAlphanumeric c

/-- Is the text a name for a group? -/
def isGroupName (name : List Char) : Bool :=
  match name with
  | [] => false
  | c :: rest => isGroupNameChar true c && rest.all (isGroupNameChar false)

/-- Does the text look around? -/
def looksAround (s : List Char) : Bool :=
  [['?', '='], ['?', '!'], ['?', '<', '='], ['?', '<', '!']].any fun p => (afterPrefix? p s).isSome

/-- Reads the name of a group and the bracket that closes it. -/
def readGroupName? (s : List Char) : Option (Read GroupStart s.length) := do
  let name ← readThrough? '>' s
  if isGroupName name.value then return name.map .named else none

/-- Is the character the end of flags? -/
def endsFlags (c : Char) : Bool := c == ':' || c == ')'

/-- Reads flags and the character that ends them. -/
def readFlags? (s : List Char) : Option (Read GroupStart s.length) := do
  let letters := Read.ofRun (!endsFlags ·) s
  let closing ← readAny? letters.rest
  let changes ← flagChanges? [] true letters.value
  if closing.value = ':' then return letters.perhapsThen (closing.map fun _ => .plain changes)
  else if letters.value.isEmpty then none
  else return letters.perhapsThen (closing.map fun _ => .directive changes)

/-- Reads what stands after an opening parenthesis. -/
def readGroupStart? (s : List Char) : Option (Read GroupStart (s.length + 1)) :=
  if looksAround s then none
  else match s with
    | '?' :: 'P' :: '<' :: rest => (readGroupName? rest).map (·.afterOne.afterOne.afterOne.afterOne)
    | '?' :: '<' :: rest => (readGroupName? rest).map (·.afterOne.afterOne.afterOne)
    | '?' :: rest => (readFlags? rest).map (·.afterOne.afterOne)
    | s => some (Read.nothing .numbered s)

/-- The scope inside a group; a name may be given once. -/
def Scope.enter? (scope : Scope) : GroupStart → Option Scope
  | .numbered => some { scope with groups := scope.groups + 1 }
  | .named name =>
    if scope.names.contains name then none
    else some { scope with groups := scope.groups + 1, names := name :: scope.names }
  | .plain changes => some { scope with spacing := scope.spacing.after changes }
  | .directive changes => some { scope with spacing := scope.spacing.after changes }

/-- What a parenthesis writes, given the number of a group and what stands inside it. -/
def GroupStart.enclose (start : GroupStart) (number : Nat) (inside : Written) : Written :=
  match start with
  | .numbered | .named _ => .group number inside
  | .plain changes => .scope changes inside
  | .directive changes => .flags changes

end Phrasebook.Regex
