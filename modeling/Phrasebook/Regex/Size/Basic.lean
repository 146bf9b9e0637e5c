/-!
# The size of an automaton

An expression is recognized by an automaton that reads bytes. The memory for its states is limited. It is counted while
the automaton grows part by part, and the count ends where the limit is passed, so that even an expression with
billions of repetitions is refused soon.
-/

namespace Phrasebook.Regex

/-- How many states an automaton has, and the bytes that their lists of transitions take. -/
structure Size where
  states : Nat
  lists : Nat
  deriving DecidableEq, Repr

/-- What a part adds to an automaton; nothing comes of it where the limit is passed. -/
structure Growth where
  apply : Size → Option Size

namespace Size

/-- The size of an automaton without states. -/
def zero : Size := ⟨0, 0⟩

/-- The memory for the automaton, in bytes. -/
def memory (s : Size) : Nat := 32 * s.states + s.lists

/-- How much memory an automaton may take. -/
def limit : Nat := 10485760

end Size

namespace Growth

/-- Adds nothing. -/
def nothing : Growth := ⟨some⟩

/-- Adds states and the bytes of their lists. -/
def add (states lists : Nat) : Growth where
  apply s :=
    let grown : Size := ⟨s.states + states, s.lists + lists⟩
    if grown.memory ≤ Size.limit then some grown else none

/-- Adds one part after another. -/
def andThen (first second : Growth) : Growth := ⟨fun s => (first.apply s).bind second.apply⟩

/-- Adds a part several times to an automaton. -/
def applyTimes (g : Growth) : Nat → Size → Option Size
  | 0, s => some s
  | n + 1, s =>
    match g.apply s with
    | some grown => applyTimes g n grown
    | none => none

/-- Adds a part several times. -/
def times (g : Growth) (n : Nat) : Growth := ⟨g.applyTimes n⟩

/-- Is the limit kept by an automaton that consists of the part? -/
def fits (g : Growth) : Bool := (g.apply .zero).isSome

end Growth

end Phrasebook.Regex
