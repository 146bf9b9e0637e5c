import Phrasebook.Regex.Brackets
import Phrasebook.Regex.Count
import Phrasebook.Regex.GroupStart
import Phrasebook.Regex.Meaning
import Phrasebook.Regex.Size

/-!
# Reading regular expressions

The notation has groups with and without a number, names and flags, sets in brackets, escapes, counted repetitions and
assertions. Looking around and referring back to a group are not part of it. A text that is not an expression is refused
without a reason, and so is an expression that is nested too deep or takes too much memory.
-/

namespace Phrasebook.Regex

open Text Unicode

/-- Reads an expression for one character or place, which begins with `c`. -/
def readAtom? (sp : Spacing) (c : Char) (s : List Char) : Option (Read Written (s.length + 1)) :=
  let plain := fun (w : Written) => some (Read.nothing w s)
  if c = '\\' then (readEscape? sp s).map Read.afterOne
  else if c = '[' then
    (readSet? sp s).map fun set => (set.map fun (negated, inside) => .bracket negated inside).afterOne
  else if c = '.' then plain .dot
  else if c = '^' then plain .lineStart
  else if c = '$' then plain .lineEnd
  else if c = '*' ∨ c = '+' ∨ c = '?' ∨ c = '{' then none
  else plain (.char c false)

mutual

/-- Reads alternatives up to the end or a closing parenthesis, given those before, the latest first. -/
def readAlternatives? (scope : Scope) (before : List Written) (s : List Char) {n : Nat} (h : s.length < n) :
    Option (Read (Written × Scope) n) := do
  let branch ← readSequence? scope [] s (Nat.lt_succ_self s.length)
  let branches := branch.value.1 :: before
  match readChar? '|' branch.rest with
  | some bar => readAlternatives? branch.value.2 branches bar.rest (Nat.lt_trans (branch.perhapsThen bar).below h)
  | none => return (branch.widen h).map fun _ => (.ofBranches branches.reverse, branch.value.2)
  termination_by 2 * s.length + 1
  decreasing_by
    · exact Nat.lt_succ_self _
    · exact Nat.succ_lt_succ (Nat.mul_lt_mul_of_pos_left (branch.perhapsThen bar).below Nat.two_pos)

/-- Reads expressions that follow one another, given those before, the latest first. -/
def readSequence? (scope : Scope) (before : List Written) (s : List Char) {n : Nat} (h : s.length < n) :
    Option (Read (Written × Scope) n) :=
  let ended := some (((scope.spacing.skipped () s).widen h).map fun _ => (Written.ofItems before.reverse, scope))
  match scope.spacing.next? s with
  | none => ended
  | some c =>
    if c.value = '|' ∨ c.value = ')' then ended
    else if c.value = '(' then do
      let gap := scope.spacing.skipped () c.rest
      let begun ← readGroupStart? gap.rest
      let start := c.andThen (gap.andThen begun)
      let inner ← scope.enter? start.value
      match start.value with
      | .directive changes => readSequence? inner (.flags changes :: before) start.rest (Nat.lt_trans start.below h)
      | _ =>
        let inside ← readAlternatives? inner [] start.rest (Nat.lt_succ_self start.rest.length)
        let closed ← readChar? ')' inside.rest
        let whole := start.value.enclose inner.groups inside.value.1
        let item ← readRepetitions? scope.spacing whole closed.rest
        let group := start.andThen (inside.perhapsThen (closed.andThen item)).afterOne
        let outer := { inside.value.2 with spacing := scope.spacing }
        readSequence? outer (item.value :: before) group.rest (Nat.lt_trans group.below h)
    else do
      let atom ← readAtom? scope.spacing c.value c.rest
      let item ← readRepetitions? scope.spacing atom.value atom.rest
      let taken := c.andThen (atom.andThen item)
      readSequence? scope (item.value :: before) taken.rest (Nat.lt_trans taken.below h)
  termination_by 2 * s.length
  decreasing_by
    · exact Nat.mul_lt_mul_of_pos_left start.below Nat.two_pos
    · exact Nat.mul_le_mul_left 2 start.below
    · exact Nat.mul_lt_mul_of_pos_left group.below Nat.two_pos
    · exact Nat.mul_lt_mul_of_pos_left taken.below Nat.two_pos

end

/-- The expression that a text writes, before flags are applied. -/
def readWritten? (text : String) : Option Written := do
  let w ← readAlternatives? ⟨.significant, 0, []⟩ [] text.toList (Nat.lt_succ_self _)
  if w.rest.isEmpty && w.value.1.depth ≤ maxDepth then return w.value.1 else none

/-- The expression that a text writes. -/
def read? (text : String) : Option Regex := do
  let w ← readWritten? text
  let (r, _) ← w.meaning? .initial
  if r.fits then return r else none

end Phrasebook.Regex
