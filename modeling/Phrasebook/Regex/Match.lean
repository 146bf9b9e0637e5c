import Phrasebook.Regex.Search

/-!
# Matching

A match begins as far left as it can, and of the matches that begin there the expression takes the one that it prefers.
The matches in a text follow one another without overlapping; an empty match does not stand right after another match.
-/

namespace Phrasebook.Regex

/-- An expression ready for matching. -/
structure Matcher where
  plan : Plan
  /-- How many choices the plan has. -/
  choices : Nat

/-- A matcher for the expression. -/
def matcher (r : Regex) : Matcher :=
  let (plan, choices) := r.planFrom 0
  ⟨plan, choices⟩

/-- A match: where it begins and ends, and the texts of the groups. -/
structure Match where
  start : Nat
  stop : Nat
  groups : List (Nat × Nat × Nat)
  deriving DecidableEq, Repr

/-- The characters of a text from one place to another. -/
def slice (s : List Char) (start stop : Nat) : List Char := (s.drop start).take (stop - start)

namespace Match

/-- The text of the match. -/
def text (m : Match) (s : List Char) : List Char := slice s m.start m.stop

/-- Where the text of a group begins and ends, if the group took part. -/
def span? (m : Match) (number : Nat) : Option (Nat × Nat) := (m.groups.find? (·.1 == number)).map Prod.snd

/-- The text of a group, if it took part. -/
def group? (m : Match) (number : Nat) (s : List Char) : Option (List Char) :=
  (m.span? number).map fun (start, stop) => slice s start stop

end Match

namespace Matcher

/-- The first match that begins at a place or later: where it begins and the place where it ends. What failed at one
place fails at every later start as well. -/
def firstFrom? (m : Matcher) (left : Nat) (seen : Seen) (before : Option Char) (index : Nat) (rest : List Char) :
    Option (Nat × Place) :=
  match search left seen [([.run m.plan], ⟨before, rest, index, []⟩)] with
  | .found place => some (index, place)
  | .exhausted left seen =>
    match rest with
    | [] => none
    | c :: rest => m.firstFrom? left seen (some c) (index + 1) rest

/-- The first match that begins at a place or later. -/
def first? (m : Matcher) (p : Place) : Option (Nat × Place) :=
  m.firstFrom? (m.choices * (p.rest.length + 1)) (.empty m.choices p.index) p.before p.index p.rest

/-- The first match from a place on. Where a match has just ended, an empty one is passed over together with the next
character. -/
def next? (m : Matcher) (afterMatch : Bool) (p : Place) : Option (Nat × Place) :=
  (m.first? p).bind fun (start, stop) =>
    if afterMatch && start == p.index && stop.index == p.index then p.next?.bind fun (_, q) => m.first? q
    else some (start, stop)

/-- At most `count` matches from a place on. -/
def matchesFrom (m : Matcher) : (count : Nat) → (afterMatch : Bool) → Place → List Match
  | 0, _, _ => []
  | count + 1, afterMatch, p =>
    match m.next? afterMatch p with
    | none => []
    | some (start, stop) => ⟨start, stop.index, stop.groups⟩ :: m.matchesFrom count true stop

/-- The matches in a text. Each ends at a place of its own. -/
def matchesIn (m : Matcher) (s : List Char) : List Match := m.matchesFrom (s.length + 1) false (.start s)

end Matcher

end Phrasebook.Regex
