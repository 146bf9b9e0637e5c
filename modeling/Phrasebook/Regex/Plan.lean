import Phrasebook.Regex.Basic

/-!
# Plans of matching

A plan says how an expression is matched step by step. Where there is a choice between two ways to go on, one is
preferred, and the choice has a number. Repetitions are written out as far as they are bounded; a loop stands for any
number of them.

Repetitions that consume characters are a loop by themselves. What may match the empty text is repeated by a choice
between nothing and a first repetition, after which the loop begins.
-/

namespace Phrasebook.Regex

/-- How an expression is matched. -/
inductive Plan where
  | done
  | text (chars : List Char)
  | oneOf (set : CharSet)
  | assertion (a : Assertion)
  | sequence (first second : Plan)
  /-- The first way is preferred to the second. -/
  | choice (number : Nat) (first second : Plan)
  | group (index : Nat) (inside : Plan)
  /-- Once more is preferred to no more, unless `lazily`. -/
  | loop (number : Nat) (lazily : Bool) (inside : Plan)

/-- Makes a plan whose choices have numbers from a given one on, and tells the next number. -/
abbrev Planner := Nat → Plan × Nat

/-- A choice between a part and nothing. -/
def Plan.optional (number : Nat) (lazily : Bool) (p : Plan) : Plan :=
  if lazily then .choice number .done p else .choice number p .done

/-- A part and then any number of its repetitions. -/
def Plan.repeated (number : Nat) (lazily : Bool) (p : Plan) : Plan := .sequence p (.loop number lazily p)

/-- Copies of a part one after another, and then `rest`. -/
def copies (make : Planner) (rest : Plan) : (count : Nat) → Planner
  | 0, n => (rest, n)
  | count + 1, n =>
    let (p, n) := make n
    copies make (.sequence p rest) count n

/-- Copies of a part, each of which need not be there, and then `rest` after the last. -/
def optionalCopies (make : Planner) (lazily : Bool) (rest : Plan) : (count : Nat) → Planner
  | 0, n => (rest, n)
  | count + 1, n =>
    let (p, n) := make n
    optionalCopies make lazily (.optional n lazily (.sequence p rest)) count (n + 1)

/-- Any number of repetitions, of which each is known to consume characters or not. -/
def planAny (make : Planner) (lazily consumes : Bool) : Planner := fun n =>
  let (p, n) := make n
  if consumes then (.loop n lazily p, n + 1) else (.optional (n + 1) lazily (.repeated n lazily p), n + 2)

/-- Repetitions. -/
def planRepetition (make : Planner) (least : Nat) (most : Option Nat) (lazily consumes : Bool) : Planner := fun n =>
  match most, least with
  | some most, least =>
    let (rest, n) := optionalCopies make lazily .done (most - least) n
    copies make rest least n
  | none, 0 => planAny make lazily consumes n
  | none, least + 1 =>
    let (p, n) := make n
    copies make (.repeated n lazily p) least (n + 1)

/-- The plan for an expression, given the number of its first choice, and the number after that of its last. -/
def planFrom : Regex → Planner
  | .empty, n => (.done, n)
  | .text chars, n => (.text chars, n)
  | .oneOf set, n => (.oneOf set, n)
  | .assertion a, n => (.assertion a, n)
  | .sequence first second, n =>
    let (p, n) := first.planFrom n
    let (q, n) := second.planFrom n
    (.sequence p q, n)
  | .alternatives first second, n =>
    let (p, n) := first.planFrom n
    let (q, n) := second.planFrom n
    (.choice n p q, n + 1)
  | .group index inside, n =>
    let (p, n) := inside.planFrom n
    (.group index p, n)
  | .repetition least most lazily inside, n =>
    planRepetition inside.planFrom least most lazily (inside.shortest?.any (0 < ·)) n

end Phrasebook.Regex
