import Phrasebook.Regex.Escape

/-!
# Sets in brackets

A set in brackets holds characters, ranges, escapes, named ASCII classes and other sets, which may be combined with
intersection `&&`, difference `--` and symmetric difference `~~`. Operators have no precedence and go from the left.
-/

namespace Phrasebook.Regex

open Text Unicode

/-- The class of ASCII characters that a name between `[:` and `:]` stands for. -/
def asciiClass? (name : String) : Option CharSet :=
  match name with
  | "alnum" => some [(0x30, 0x39), (0x41, 0x5a), (0x61, 0x7a)]
  | "alpha" => some [(0x41, 0x5a), (0x61, 0x7a)]
  | "ascii" => some [(0x0, 0x7f)]
  | "blank" => some [(0x9, 0x9), (0x20, 0x20)]
  | "cntrl" => some [(0x0, 0x1f), (0x7f, 0x7f)]
  | "digit" => some [(0x30, 0x39)]
  | "graph" => some [(0x21, 0x7e)]
  | "lower" => some [(0x61, 0x7a)]
  | "print" => some [(0x20, 0x7e)]
  | "punct" => some [(0x21, 0x2f), (0x3a, 0x40), (0x5b, 0x60), (0x7b, 0x7e)]
  | "space" => some [(0x9, 0xd), (0x20, 0x20)]
  | "upper" => some [(0x41, 0x5a)]
  | "word" => some [(0x30, 0x39), (0x41, 0x5a), (0x5f, 0x5f), (0x61, 0x7a)]
  | "xdigit" => some [(0x30, 0x39), (0x41, 0x46), (0x61, 0x66)]
  | _ => none

/-- What an escape stands for in brackets, where assertions have no place. -/
def Written.setItem? : Written → Option WrittenSet
  | .char c _ => some (.char c)
  | .letterClass kind negated => some (.letterClass kind negated)
  | .property name negated => some (.property name negated)
  | _ => none

/-- Reads a character or an escape in brackets. -/
def readSetItem? (sp : Spacing) (s : List Char) : Option (Read WrittenSet s.length) :=
  match s with
  | [] => none
  | c :: rest =>
    if c = '\\' then do
      let escape ← readEscape? sp rest
      let item ← escape.value.setItem?
      return (escape.map fun _ => item).afterOne
    else some (Read.first (.char c) c rest)

/-- Reads an item in brackets or a range of two. A hyphen before a closing bracket or another hyphen makes no range. -/
def readSetRange? (sp : Spacing) (s : List Char) : Option (Read WrittenSet s.length) := do
  let first ← readSetItem? sp s
  let c ← sp.next? first.rest
  let seen := sp.peek? c.rest
  if c.value ≠ '-' ∨ seen = some ']' ∨ seen = some '-' then return first
  else
    let gap := sp.skipped () c.rest
    let last ← readSetItem? sp gap.rest
    match first.value, last.value with
    | .char a, .char b =>
      if a ≤ b then
        return first.andThen (c.andThen (gap.perhapsThen (last.map fun _ => .range a b)).afterOne).afterOne
      else none
    | _, _ => none

/-- Reads an ASCII class after its opening bracket. -/
def readAsciiClass? (s : List Char) : Option (Read WrittenSet s.length) := do
  let start ← readChar? ':' s
  let caret := readOptional '^' start.rest
  let name := Read.ofRun (· != ':') caret.rest
  let colon ← readChar? ':' name.rest
  let closed ← readChar? ']' colon.rest
  let set ← asciiClass? (String.ofList name.value)
  let named := name.perhapsThen (colon.andThen (closed.map fun _ => .ascii set caret.value).afterOne)
  return start.andThen (caret.andThen named.afterOne)

/-- The sets read so far inside brackets: those before the last operator with that operator, and the items since, the
latest first. -/
structure SetSoFar where
  earlier : Option (WrittenSet × SetOperator)
  items : List WrittenSet

/-- One more item. -/
def SetSoFar.add (soFar : SetSoFar) (item : WrittenSet) : SetSoFar := { soFar with items := item :: soFar.items }

/-- The set of all that was read. -/
def SetSoFar.set (soFar : SetSoFar) : WrittenSet :=
  let items := WrittenSet.ofList soFar.items.reverse
  match soFar.earlier with
  | none => items
  | some (left, op) => .operation op left items

/-- An operator after what was read. -/
def SetSoFar.combine (soFar : SetSoFar) (op : SetOperator) : SetSoFar := ⟨some (soFar.set, op), []⟩

/-- The operator that two characters stand for. -/
def setOperator? (c d : Char) : Option SetOperator :=
  if c ≠ d then none
  else if c = '&' then some .intersection
  else if c = '-' then some .difference
  else if c = '~' then some .symmetricDifference
  else none

/-- Reads the second character of an operator that begins with `c`. -/
def readOperator? (c : Char) (s : List Char) : Option (Read SetOperator s.length) := do
  let d ← readAny? s
  let op ← setOperator? c d.value
  return d.map fun _ => op

/-- Reads hyphens and counts them. -/
def readHyphens (sp : Spacing) (s : List Char) : Read Nat (s.length + 1) :=
  match sp.readMark? '-' s with
  | some hyphen => (hyphen.andThen ((readHyphens sp hyphen.rest).map (· + 1))).afterOne
  | none => sp.skipped 0 s
  termination_by s.length
  decreasing_by exact hyphen.below

/-- Reads what stands after an opening bracket: whether the set is negated, and hyphens or a closing bracket that stand
for themselves. -/
def readSetStart (sp : Spacing) (s : List Char) : Read (Bool × List WrittenSet) (s.length + 1) :=
  let gap := sp.skipped () s
  let caret := gap.andThen (readOptional '^' gap.rest)
  let hyphens := readHyphens sp caret.rest
  match if hyphens.value = 0 then readChar? ']' hyphens.rest else none with
  | some bracket => caret.andThen (hyphens.andThen (bracket.map fun _ => (caret.value, [.char ']'])).afterOne)
  | none => caret.andThen (hyphens.map fun n => (caret.value, List.replicate n (.char '-')))

mutual

/-- Reads a set after its opening bracket, and whether it is negated. -/
def readSet? (sp : Spacing) (s : List Char) : Option (Read (Bool × WrittenSet) s.length) := do
  let start := readSetStart sp s
  let inside ← readSetItems? sp ⟨none, start.value.2⟩ start.rest
  return start.perhapsThen (inside.map fun set => (start.value.1, set))
  termination_by 2 * s.length + 1
  decreasing_by exact Nat.lt_succ_of_le (Nat.mul_le_mul_left 2 (Nat.le_of_lt_succ start.below))

/-- Reads the items of a set and its closing bracket. -/
def readSetItems? (sp : Spacing) (soFar : SetSoFar) (s : List Char) : Option (Read WrittenSet s.length) :=
  match sp.next? s with
  | none => none
  | some c =>
    if c.value = ']' then some (c.map fun _ => soFar.set)
    else if c.value = '[' then
      match readAsciiClass? c.rest with
      | some named => do
        let others ← readSetItems? sp (soFar.add named.value) named.rest
        return c.andThen (named.andThen others.afterOne).afterOne
      | none => do
        let nested ← readSet? sp c.rest
        let others ← readSetItems? sp (soFar.add (.bracket nested.value.1 nested.value.2)) nested.rest
        return c.andThen (nested.andThen others.afterOne).afterOne
    else match readOperator? c.value c.rest with
      | some op => do
        let others ← readSetItems? sp (soFar.combine op.value) op.rest
        return c.andThen (op.andThen others.afterOne).afterOne
      | none => do
        let gap := sp.skipped () s
        let item ← readSetRange? sp gap.rest
        let others ← readSetItems? sp (soFar.add item.value) item.rest
        return gap.perhapsThen (item.andThen others.afterOne)
  termination_by 2 * s.length
  decreasing_by
    · have := Nat.lt_trans named.below c.below
      omega
    · have := c.below
      omega
    · have := Nat.lt_trans nested.below c.below
      omega
    · have := Nat.lt_trans op.below c.below
      omega
    · exact Nat.mul_lt_mul_of_pos_left (gap.perhapsThen item).below Nat.two_pos

end

end Phrasebook.Regex
