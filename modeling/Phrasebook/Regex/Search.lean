import Phrasebook.Regex.Plan
import Phrasebook.Regex.Seen

/-!
# Searching along a plan

A thread is a place in a text with the tasks that remain to be done there. A step does the first task, and either goes
on, fails, or comes to a choice. The other way of a choice is put aside and taken up when the first one fails.

A choice is made at most once at each place: whoever comes there again would fail as before, or go round in a loop
without consuming characters. So a search takes no more steps than there are choices and places.
-/

namespace Phrasebook.Regex

/-- A place in a text: the character before it, the characters after it, and how many are before it; with the texts of
the groups so far, the latest first, as a group's number and the places where it begins and ends. -/
structure Place where
  before : Option Char
  rest : List Char
  index : Nat
  groups : List (Nat × Nat × Nat)

namespace Place

/-- The place at the start of a text. -/
def start (s : List Char) : Place := ⟨none, s, 0, []⟩

/-- The place after the next character, with that character. -/
def next? (p : Place) : Option (Char × Place) :=
  match p.rest with
  | [] => none
  | c :: rest => some (c, ⟨some c, rest, p.index + 1, p.groups⟩)

/-- The place after one character of a set. -/
def passOneOf? (set : CharSet) (p : Place) : Option Place :=
  match p.next? with
  | none => none
  | some (c, q) => if set.has c.toNat then some q else none

/-- The place after a text. -/
def passText? : List Char → Place → Option Place
  | [], p => some p
  | c :: chars, p =>
    match p.next? with
    | none => none
    | some (d, q) => if d = c then passText? chars q else none

/-- The place itself, if an assertion holds there. -/
def passAssertion? (a : Assertion) (p : Place) : Option Place :=
  if a.holds p.before p.rest.head? then some p else none

/-- The place, where a group has ended that began at `start`. -/
def close (index start : Nat) (p : Place) : Place := { p with groups := (index, start, p.index) :: p.groups }

end Place

/-- What remains to be done. -/
inductive Task where
  | run (p : Plan)
  /-- A group ends that began at `start`. -/
  | close (index start : Nat)

/-- What a step comes to. -/
inductive Move where
  | found
  | fail
  | goOn (tasks : List Task) (place : Place)
  /-- There are two ways to go on from the same place. -/
  | choose (number : Nat) (first second : List Task)

/-- Goes on with tasks from a place, if there is one. -/
def Move.goOnFrom (tasks : List Task) : Option Place → Move
  | some place => .goOn tasks place
  | none => .fail

/-- Does the first of the tasks at a place. -/
def step : List Task → Place → Move
  | [], _ => .found
  | .close index start :: tasks, p => .goOn tasks (p.close index start)
  | .run .done :: tasks, p => .goOn tasks p
  | .run (.text chars) :: tasks, p => .goOnFrom tasks (p.passText? chars)
  | .run (.oneOf set) :: tasks, p => .goOnFrom tasks (p.passOneOf? set)
  | .run (.assertion a) :: tasks, p => .goOnFrom tasks (p.passAssertion? a)
  | .run (.sequence first second) :: tasks, p => .goOn (.run first :: .run second :: tasks) p
  | .run (.choice number first second) :: tasks, _ => .choose number (.run first :: tasks) (.run second :: tasks)
  | .run (.group index inside) :: tasks, p => .goOn (.run inside :: .close index p.index :: tasks) p
  | .run (.loop number lazily inside) :: tasks, _ =>
    let again := .run inside :: .run (.loop number lazily inside) :: tasks
    if lazily then .choose number tasks again else .choose number again tasks

/-! ## Weights

Each step that goes on leaves tasks of less weight. -/

/-- The weight of a plan. -/
def Plan.weight : Plan → Nat
  | .sequence first second => first.weight + second.weight + 1
  | .group _ inside => inside.weight + 2
  | _ => 1

/-- The weight of a task. -/
def Task.weight : Task → Nat
  | .run p => p.weight
  | .close .. => 1

/-- The weight of tasks. -/
def weight : List Task → Nat
  | [] => 0
  | task :: tasks => task.weight + weight tasks

/-- A place with the tasks that remain to be done there. -/
abbrev Thread := List Task × Place

/-- The weight of threads, each of which counts by itself as well. -/
def totalWeight : List Thread → Nat
  | [] => 0
  | thread :: threads => weight thread.1 + 1 + totalWeight threads

theorem Plan.weight_pos (p : Plan) : 0 < p.weight := by cases p <;> exact Nat.succ_pos _

theorem weight_lt_of_goOnFrom {tasks others : List Task} {place : Option Place} {q : Place} {p : Plan}
    (h : Move.goOnFrom tasks place = .goOn others q) : weight others < weight (.run p :: tasks) := by
  cases place with
  | none => simp [Move.goOnFrom] at h
  | some _ =>
    simp only [Move.goOnFrom, Move.goOn.injEq] at h
    rw [← h.1]
    exact Nat.lt_add_of_pos_left p.weight_pos

theorem weight_lt_of_step {tasks others : List Task} {p q : Place} (h : step tasks p = .goOn others q) :
    weight others < weight tasks := by
  fun_cases step tasks p with
  | case1 => simp [step] at h
  | case2 =>
    simp only [step, Move.goOn.injEq] at h
    simp only [← h.1, weight, Task.weight]; omega
  | case3 =>
    simp only [step, Move.goOn.injEq] at h
    simp only [← h.1, weight, Task.weight, Plan.weight]; omega
  | case4 => exact weight_lt_of_goOnFrom h
  | case5 => exact weight_lt_of_goOnFrom h
  | case6 => exact weight_lt_of_goOnFrom h
  | case7 =>
    simp only [step, Move.goOn.injEq] at h
    simp only [← h.1, weight, Task.weight, Plan.weight]; omega
  | case8 => simp [step] at h
  | case9 =>
    simp only [step, Move.goOn.injEq] at h
    simp only [← h.1, weight, Task.weight, Plan.weight]; omega
  | case10 =>
    simp only [step] at h
    split at h <;> simp at h
  | case11 =>
    simp only [step] at h
    split at h <;> simp at h

theorem totalWeight_lt_of_step {tasks others : List Task} {p q : Place} (threads : List Thread)
    (h : step tasks p = .goOn others q) : totalWeight ((others, q) :: threads) < totalWeight ((tasks, p) :: threads) :=
  Nat.add_lt_add_right (Nat.succ_lt_succ (weight_lt_of_step h)) _

theorem totalWeight_lt_cons (thread : Thread) (threads : List Thread) :
    totalWeight threads < totalWeight (thread :: threads) :=
  Nat.lt_add_of_pos_left (Nat.succ_pos _)

/-! ## The search -/

/-- What a search comes to: a place where all tasks are done, or none, with the choices made on the way and the number
of those that can still be made. -/
inductive SearchResult where
  | found (place : Place)
  | exhausted (left : Nat) (seen : Seen)

/-- What threads come to before a choice is made. -/
inductive Advance where
  | found (place : Place)
  /-- All threads have failed. -/
  | failed
  /-- A choice that has not been made yet, with its two ways to go on and the threads after it. -/
  | choice (number : Nat) (place : Place) (first second : List Task) (others : List Thread)

set_option linter.unusedVariables false in
/-- Runs threads, the first one first, up to a choice that is not among those that have been made. -/
def advance (seen : Seen) (threads : List Thread) : Advance :=
  match threads with
  | [] => .failed
  | (tasks, place) :: others =>
    match h : step tasks place with
    | .found => .found place
    | .fail => advance seen others
    | .goOn remaining next => advance seen ((remaining, next) :: others)
    | .choose number first second =>
      if seen.contains number place.index then advance seen others else .choice number place first second others
  termination_by totalWeight threads
  decreasing_by
    · exact totalWeight_lt_cons _ _
    · exact totalWeight_lt_of_step others h
    · exact totalWeight_lt_cons _ _

/-- Runs threads through their choices; `left` bounds the number of choices that can still be made. -/
def search (left : Nat) (seen : Seen) (threads : List Thread) : SearchResult :=
  match advance seen threads with
  | .found place => .found place
  | .failed => .exhausted left seen
  | .choice number place first second others =>
    match left with
    | 0 => .exhausted 0 seen
    | left + 1 => search left (seen.insert number place.index) ((first, place) :: (second, place) :: others)

end Phrasebook.Regex
