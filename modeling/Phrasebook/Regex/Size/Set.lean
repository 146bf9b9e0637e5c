import Phrasebook.Regex.Size.Basic
import Phrasebook.Unicode.ByteRanges

/-!
# The size of a set

The automaton for a set of characters passes the bytes of their encodings. Where encodings end in the same way, states
are shared. What can be shared is looked up in a table of a fixed number of slots, in which a later state takes the
place of an earlier one; so a state may be made twice.
-/

namespace Phrasebook.Regex

open Unicode

/-- An automaton that grows, and a table of its states by slot: what a state consists of, and its number. -/
structure SharedStates where
  size : Size
  slots : Array (Option (List Nat × Nat))

namespace SharedStates

/-- A number that mixes the numbers of a list, and their order. -/
def fingerprint (values : List Nat) : UInt64 :=
  values.foldl (fun h value => (h ^^^ value.toUInt64) * 1099511628211) 14695981039346656037

/-- The states without any that could be shared. -/
def start (size : Size) (slotCount : Nat) : SharedStates := ⟨size, Array.replicate slotCount none⟩

/-- The automaton after it has grown. -/
def grow? (states : SharedStates) (g : Growth) : Option SharedStates :=
  match g.apply states.size with
  | none => none
  | some grown => some { states with size := grown }

/-- A new state, with `lists` bytes for its transitions, and its number. -/
def new? (states : SharedStates) (slot : Nat) (content : List Nat) (lists : Nat) : Option (Nat × SharedStates) :=
  match (Growth.add 1 lists).apply states.size with
  | none => none
  | some grown =>
    let number := states.size.states
    some (number, ⟨grown, states.slots.setIfInBounds slot (some (content, number))⟩)

/-- The number of a state: the one in its slot if that consists of the same, or else a new one. -/
def state? (states : SharedStates) (content : List Nat) (lists : Nat) : Option (Nat × SharedStates) :=
  let slot := (fingerprint content).toNat % states.slots.size
  match states.slots[slot]? with
  | some (some (other, number)) =>
    if other == content then some (number, states) else states.new? slot content lists
  | _ => states.new? slot content lists

end SharedStates

/-! ## Reading forward -/

/-- Do both begin with the same range? -/
def sameFirst (x y : ByteRanges) : Bool := x.head? == y.head?

/-- The state from which encodings lead to the state `target`, given how long they may be. Those that begin with the
same range go on from the same state. -/
def forwardState? (target : Nat) : (length : Nat) → List ByteRanges → SharedStates → Option (Nat × SharedStates)
  | 0, _, states => some (target, states)
  | length + 1, encodings, states => do
    let (transitions, states) ← (encodings.splitBy sameFirst).foldlM (fun (transitions, states) alike => do
      let rests := alike.map List.tail
      let (next, states) ←
        if rests.all List.isEmpty then some (target, states) else forwardState? target length rests states
      match alike with
      | (range :: _) :: _ => return ([range.1, range.2, next] :: transitions, states)
      | _ => return (transitions, states)) ([], states)
    states.state? transitions.reverse.flatten (8 * transitions.length)

/-! ## Reading backward -/

/-- The state from which an encoding is read from its last byte to its first, where `target` is reached. -/
def backwardState? (target : Nat) (encoding : ByteRanges) (states : SharedStates) : Option (Nat × SharedStates) :=
  encoding.foldlM (fun (next, states) range => states.state? [next, range.1, range.2] 0) (target, states)

/-- The states from which encodings are read backward, and a place for each in the list of the state that leads to
them. -/
def backwardStates? (target : Nat) (encodings : List ByteRanges) (states : SharedStates) : Option SharedStates :=
  encodings.foldlM (fun states encoding => do
    let (_, states) ← backwardState? target encoding states
    states.grow? (.add 0 4)) states

/-! ## Sets -/

/-- What the encodings in a set add to an automaton besides a state that all of them lead to. -/
def growEncodings (backward : Bool) (encodings : List ByteRanges) : Growth where
  apply s :=
    if backward then do
      let grown ← (Growth.add 2 0).apply s
      return (← backwardStates? (grown.states - 1) encodings (.start grown 1000)).size
    else do
      let grown ← (Growth.add 1 0).apply s
      return (← forwardState? (grown.states - 1) 4 encodings (.start grown 10000)).2.size

/-- What a set adds to an automaton. ASCII characters need no sharing. -/
def growSet (backward : Bool) (set : Ranges) : Growth :=
  if set.isAscii then .add 2 (8 * set.length) else growEncodings backward set.encodings

end Phrasebook.Regex
