import Phrasebook.Regex.Spacing
import Phrasebook.Regex.Written

/-!
# Signs of repetition

A star, a plus, a question mark or a count in braces repeats the expression before it, and a question mark after it
makes it lazy.
-/

namespace Phrasebook.Regex

open Text Unicode

/-- How often something is repeated, and whether as rarely as possible. -/
structure Count where
  least : Nat
  most : Option Nat
  lazily : Bool

/-- The largest number in a count. -/
def maxCount : Nat := 0xffffffff

/-- Reads digits, of which each may be followed by what is passed over. -/
def readDigits (sp : Spacing) (s : List Char) : Read (List Char) (s.length + 1) :=
  match s with
  | [] => Read.nothing [] []
  | c :: rest =>
    if c.isDigit then
      let gap := sp.skipped () rest
      (gap.andThen ((readDigits sp gap.rest).map (c :: ·))).afterOne
    else Read.nothing [] (c :: rest)
  termination_by s.length
  decreasing_by exact gap.below

/-- Passes over white space, and after each character of it over what is passed over. -/
def skipAround (sp : Spacing) (s : List Char) : Read Unit (s.length + 1) :=
  match s with
  | [] => Read.nothing () []
  | c :: rest =>
    if isBlank c then
      let gap := sp.skipped () rest
      (gap.andThen (skipAround sp gap.rest)).afterOne
    else Read.nothing () (c :: rest)
  termination_by s.length
  decreasing_by exact gap.below

/-- Reads a number with white space around it. -/
def readCountNumber? (sp : Spacing) (s : List Char) : Option (Read Nat (s.length + 1)) :=
  let start := skippedBlank () s
  let digits := readDigits sp start.rest
  let n := decimalNumber digits.value
  if digits.value.isEmpty || maxCount < n then none
  else
    let gap := skipAround sp digits.rest
    some (start.andThen (digits.andThen (gap.map fun _ => n)))

/-- Reads a count after its opening brace. -/
def readCount? (sp : Spacing) (s : List Char) : Option (Read (Nat × Option Nat) s.length) := do
  let gap := sp.skipped () s
  let least ← (readCountNumber? sp gap.rest).map gap.andThen
  match readChar? '}' least.rest with
  | some brace => return least.perhapsThen (brace.map fun _ => (least.value, some least.value))
  | none =>
    let comma ← readChar? ',' least.rest
    match sp.readMark? '}' comma.rest with
    | some brace => return least.perhapsThen (comma.andThen (brace.map fun _ => (least.value, none)).afterOne)
    | none =>
      let gap := sp.skipped () comma.rest
      let most ← (readCountNumber? sp gap.rest).map gap.andThen
      let brace ← readChar? '}' most.rest
      if least.value ≤ most.value then
        let count := most.perhapsThen (brace.map fun _ => (least.value, some most.value))
        return least.perhapsThen (comma.andThen count.afterOne)
      else none

/-- Reads the sign of a repetition. Where it begins none, there is no repetition. After braces, but not after another
sign, something may be passed over before the question mark of a lazy one. -/
def readRepetition? (sp : Spacing) (s : List Char) : Option (Option (Read Count s.length)) :=
  match s with
  | [] => some none
  | c :: rest =>
    let sign := fun (least : Nat) (most : Option Nat) =>
      let lazily := readOptional '?' rest
      some (some (lazily.map fun lazily => (⟨least, most, lazily⟩ : Count)))
    if c = '*' then sign 0 none
    else if c = '+' then sign 1 none
    else if c = '?' then sign 0 (some 1)
    else if c = '{' then do
      let count ← readCount? sp rest
      let gap := sp.skipped () count.rest
      let lazily := gap.andThen (readOptional '?' gap.rest)
      return some (count.andThen (lazily.map fun lazily => ⟨count.value.1, count.value.2, lazily⟩)).afterOne
    else some none

/-- Reads the repetitions after an expression. -/
def readRepetitions? (sp : Spacing) (w : Written) (s : List Char) : Option (Read Written (s.length + 1)) := do
  let gap := sp.skipped () s
  match ← readRepetition? sp gap.rest with
  | none => return Read.nothing w s
  | some count =>
    let item := gap.perhapsThen count
    let repeated := .repetition count.value.least count.value.most count.value.lazily w
    let others ← readRepetitions? sp repeated item.rest
    return (item.andThen others).afterOne
  termination_by s.length
  decreasing_by exact item.below

end Phrasebook.Regex
