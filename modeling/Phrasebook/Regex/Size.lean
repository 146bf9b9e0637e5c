import Phrasebook.Regex.Basic
import Phrasebook.Regex.Size.Set
import Phrasebook.Regex.Size.Texts

/-!
# The memory that an expression needs

For an expression there are two automata, one that reads a text forward and one that reads it backward, and each of
them has to keep the limit. Copies of what is repeated count one by one. Only the automaton that reads forward remembers
groups.
-/

namespace Phrasebook.Regex

/-- The texts of alternatives, if all of them are texts. -/
def texts? : Regex → Option (List (List Char))
  | .text chars => some [chars]
  | .alternatives (.text chars) second => do return chars :: (← second.texts?)
  | _ => none

/-- What is added after a branch of alternatives, given the number of branches before it: two branches take a state that
leads to them and one where they join. -/
def growJoint : (before : Nat) → Growth
  | 0 => .nothing
  | 1 => .add 2 8
  | _ => .add 0 4

/-- What a repetition adds to an automaton, given what its inside adds. -/
def growRepetition (least : Nat) (most : Option Nat) (consumes : Bool) (inside : Growth) : Growth :=
  match most, least with
  | none, 0 => if consumes then (Growth.add 1 8).andThen inside else inside.andThen (.add 3 16)
  | none, least + 1 => (inside.times (least + 1)).andThen (.add 1 8)
  | some most, least =>
    let copies := if least = 0 then .add 1 0 else inside.times least
    if most = least then copies
    else if least = 0 ∧ most = 1 then ((Growth.add 1 8).andThen inside).andThen (.add 1 0)
    else (copies.andThen (.add 1 0)).andThen (((Growth.add 1 8).andThen inside).times (most - least))

/-- What an expression adds to an automaton, where it is a branch after `before` others of the same alternatives. -/
def grow (backward : Bool) (before : Nat) : Regex → Growth
  | .alternatives first second =>
    match if before = 0 then Regex.texts? (.alternatives first second) else none with
    | some texts => growTexts backward texts
    | none => ((first.grow backward 0).andThen (growJoint before)).andThen (second.grow backward (before + 1))
  | .empty => (Growth.add 1 0).andThen (growJoint before)
  | .text chars => (Growth.add (encodedText chars).length 0).andThen (growJoint before)
  | .oneOf set => (growSet backward set).andThen (growJoint before)
  | .assertion _ => (Growth.add 1 0).andThen (growJoint before)
  | .sequence first second =>
    let both :=
      if backward then (second.grow backward 0).andThen (first.grow backward 0)
      else (first.grow backward 0).andThen (second.grow backward 0)
    both.andThen (growJoint before)
  | .group _ inside =>
    let whole := inside.grow backward 0
    let bounded := if backward then whole else ((Growth.add 1 0).andThen whole).andThen (.add 1 0)
    bounded.andThen (growJoint before)
  | .repetition least most _ inside =>
    let consumes := inside.shortest?.any (0 < ·)
    (growRepetition least most consumes (inside.grow backward 0)).andThen (growJoint before)

/-- What comes before an expression, whose matches are sought everywhere unless they all begin at one end. -/
def growSearch (bound : Bool) : Growth := if bound then .add 1 0 else .add 3 16

/-- The automaton that reads forward. It remembers where the whole match begins and ends. -/
def growForward (r : Regex) : Growth :=
  (growSearch r.beginsAtStart).andThen (((Growth.add 1 0).andThen (r.grow false 0)).andThen (.add 2 0))

/-- The automaton that reads backward. -/
def growBackward (r : Regex) : Growth := (growSearch r.endsAtEnd).andThen ((r.grow true 0).andThen (.add 1 0))

/-- Is there enough memory for the expression? -/
def fits (r : Regex) : Bool := r.growForward.fits && r.growBackward.fits

end Phrasebook.Regex
