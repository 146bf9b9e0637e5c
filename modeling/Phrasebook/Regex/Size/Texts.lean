import Phrasebook.Regex.Size.Basic

/-!
# The size of alternative texts

Alternatives that are all fixed texts are recognized by a tree in which texts that begin in the same way share their
first states. A text that ends inside another one comes before what is added later, so the texts after it share nothing
more with those before it.
-/

namespace Phrasebook.Regex

/-- The bytes of characters. -/
def encodedText (chars : List Char) : List UInt8 := chars.flatMap String.utf8EncodeChar

/-- A text put with those of the same first byte. -/
def putAlike (first : UInt8) (rest : List UInt8) :
    List (UInt8 × List (List UInt8)) → List (UInt8 × List (List UInt8))
  | [] => [(first, [rest])]
  | (other, rests) :: others =>
    if other = first then (other, rests ++ [rest]) :: others else (other, rests) :: putAlike first rest others

/-- Texts by their first bytes. -/
def byFirstByte (texts : List (List UInt8)) : List (UInt8 × List (List UInt8)) :=
  texts.foldl (fun groups text => match text with
    | [] => groups
    | first :: rest => putAlike first rest groups) []

/-- The runs of texts between those that are empty. -/
def runsOf (texts : List (List UInt8)) : List (List (List UInt8)) :=
  match texts with
  | [] :: rest => [] :: (rest.dropWhile List.isEmpty).splitOnP List.isEmpty
  | texts => texts.splitOnP List.isEmpty

/-- What the tree of texts of at most the given length adds to an automaton. A run with more than one first byte has a
list of transitions; a list of runs and ends leads to each run. -/
def growTree : (length : Nat) → List (List UInt8) → Size → Option Size
  | 0, _ => some
  | length + 1, texts => fun s => do
    let runs := runsOf texts
    let filled := runs.filter fun run => !run.isEmpty
    let grown ← filled.foldlM (fun s run => do
      let groups := byFirstByte run
      let inside ← groups.foldlM (fun s group =>
        if group.2.all List.isEmpty then some s else growTree length group.2 s) s
      (Growth.add 1 (if groups.length = 1 then 0 else 8 * groups.length)).apply inside) s
    (Growth.add 1 (4 * (filled.length + runs.length - 1))).apply grown

/-- What alternative texts add to an automaton. -/
def growTexts (backward : Bool) (texts : List (List Char)) : Growth :=
  let encoded := texts.map encodedText
  let words := if backward then encoded.map List.reverse else encoded
  (Growth.add 1 0).andThen ⟨growTree ((words.map List.length).foldl max 0 + 1) words⟩

end Phrasebook.Regex
