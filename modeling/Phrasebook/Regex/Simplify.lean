import Phrasebook.Regex.Basic

/-!
# Simplified expressions

Sequences and alternatives are built flat. Texts that follow one another become one, alternatives of single characters
or of sets become one set, a beginning that all alternatives share is written once, and repetitions that say nothing are
left out.
-/

namespace Phrasebook.Regex

open Unicode

/-- The expression for one character of a set. -/
def ofSet (set : CharSet) : Regex :=
  match set with
  | [(first, last)] => if first = last then .text [Char.ofNat first] else .oneOf set
  | _ => .oneOf set

/-! ## Sequences -/

/-- The parts of a sequence; none of an empty expression. -/
def parts : Regex → List Regex
  | .empty => []
  | .sequence first second => first :: second.parts
  | r => [r]

/-- A part put in front of others, as one text if both are texts. -/
def putBefore (r : Regex) (others : List Regex) : List Regex :=
  match r, others with
  | .text s, .text t :: rest => .text (s ++ t) :: rest
  | r, others => r :: others

/-- The sequence of parts. -/
def sequenceOf : List Regex → Regex
  | [] => .empty
  | [r] => r
  | r :: rest => .sequence r (sequenceOf rest)

/-- Expressions that follow one another. -/
def concat (items : List Regex) : Regex := sequenceOf ((items.flatMap parts).foldr putBefore [])

/-! ## Alternatives -/

/-- The branches of alternatives. -/
def branches : Regex → List Regex
  | .alternatives first second => first :: second.branches
  | r => [r]

/-- The alternatives with branches; without a branch nothing matches. -/
def alternativesOf : List Regex → Regex
  | [] => .oneOf []
  | [r] => r
  | r :: rest => .alternatives r (alternativesOf rest)

/-- The range of a text of one character. -/
def singleRange? : Regex → Option (Nat × Nat)
  | .text [c] => some (c.toNat, c.toNat)
  | _ => none

/-- The set of an expression for one of a set. -/
def set? : Regex → Option CharSet
  | .oneOf set => some set
  | _ => none

/-- The set of alternatives that are all single characters or all sets. -/
def commonSet? (branches : List Regex) : Option CharSet :=
  (branches.mapM singleRange?).map Ranges.ofList <|> (branches.mapM set?).map Ranges.unionAll

/-- Alternatives, as a set if they are one. -/
def setOrAlternatives (branches : List Regex) : Regex :=
  match commonSet? branches with
  | some set => ofSet set
  | none => alternativesOf branches

/-- The parts of an expression that is a sequence. -/
def sequenceParts? : Regex → Option (List Regex)
  | .sequence first second => some (first :: second.parts)
  | _ => none

/-- The parts with which both lists begin. -/
def commonStart : List Regex → List Regex → List Regex
  | r :: rest, s :: others => if r = s then r :: commonStart rest others else []
  | _, _ => []

/-- Alternatives that are all sequences with the same beginning, with that beginning in front. -/
def lifted? (branches : List Regex) : Option Regex := do
  let sequences ← branches.mapM sequenceParts?
  match sequences with
  | [] => none
  | first :: others =>
    let shared := others.foldl commonStart first
    if shared.isEmpty then none
    else
      let ends := sequences.map fun items => concat (items.drop shared.length)
      return concat (shared ++ [setOrAlternatives (ends.flatMap Regex.branches)])

/-- One of several expressions. -/
def alternation (items : List Regex) : Regex :=
  match items.flatMap branches with
  | [r] => r
  | all => match commonSet? all with
    | some set => ofSet set
    | none => (lifted? all).getD (alternativesOf all)

/-! ## Repetitions -/

/-- A repetition. What matches the empty text alone is repeated once at most; one that may not occur is empty. -/
def repeated (least : Nat) (most : Option Nat) (lazily : Bool) (inside : Regex) : Regex :=
  let onlyEmpty := inside.longest? == some 0
  let least := if onlyEmpty then min least 1 else least
  let most := if onlyEmpty then some (min (most.getD 1) 1) else most
  if least = 0 ∧ most = some 0 then .empty
  else if least = 1 ∧ most = some 1 then inside
  else .repetition least most lazily inside

end Phrasebook.Regex
