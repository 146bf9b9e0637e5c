import Phrasebook.Regex.Spacing
import Phrasebook.Regex.Written

/-!
# Escapes in regular expressions

A backslash begins the name of a character by its code point, a class or a property of characters, an assertion, or a
character that would otherwise mean more than itself.
-/

namespace Phrasebook.Regex

open Text Unicode

/-- Reads `count` hexadecimal digits. -/
def readHexDigits? (sp : Spacing) : Nat → (s : List Char) → Option (Read (List Char) (s.length + 1))
  | 0, s => some (Read.nothing [] s)
  | count + 1, s => do
    let c ← sp.next? s
    let digits ← readHexDigits? sp count c.rest
    if (hexValue? c.value).isSome then
      return (c.andThen (digits.map (c.value :: ·))).afterOne
    else none

/-- Reads characters up to a closing brace. -/
def readBraced? (sp : Spacing) (s : List Char) : Option (Read (List Char) s.length) := do
  let c ← sp.next? s
  if c.value = '}' then return c.map fun _ => []
  else
    let others ← readBraced? sp c.rest
    return c.andThen (others.map (c.value :: ·)).afterOne
  termination_by s.length
  decreasing_by exact c.below

/-- Reads the digits of a code point after its letter, either `count` of them or any number in braces. -/
def readHex? (sp : Spacing) (count : Nat) (s : List Char) : Option (Read Written (s.length + 1)) :=
  match sp.readMark? '{' s with
  | some brace => do
    let digits ← readBraced? sp brace.rest
    let n ← hexNumber? digits.value
    let c ← charOf? n
    return (brace.andThen (digits.map fun _ => .char c false).afterOne).afterOne
  | none => do
    let digits ← readHexDigits? sp count s
    let n ← hexNumber? digits.value
    let c ← charOf? n
    return digits.map fun _ => .char c (count == 2)

/-- A text cut at the first occurrence of one of several separators, in order of preference. -/
def cutAt? (separators : List (List Char)) (s : List Char) : Option (List Char × List Char × List Char) :=
  separators.findSome? fun separator => (breakOn? separator s).map fun (before, after) => (before, separator, after)

/-- The property that the text in braces names, perhaps with a value. -/
def PropertyName.ofText (s : List Char) : PropertyName :=
  match cutAt? [['!', '='], [':'], ['=']] s with
  | some (name, separator, value) => .valued name value (separator == ['!', '='])
  | none => .alone s

/-- Reads the name of a property, either one character or any name in braces. -/
def readProperty? (sp : Spacing) (negated : Bool) (s : List Char) : Option (Read Written s.length) := do
  let c ← sp.next? s
  if c.value = '\\' then none
  else if c.value = '{' then
    let name ← readBraced? sp c.rest
    return c.andThen (name.map fun text => .property (.ofText text) negated).afterOne
  else return c.map fun letter => .property (.alone [letter]) negated

/-- Characters that mean more than themselves somewhere. -/
def metaCharacters : List Char :=
  ['\\', '.', '+', '*', '?', '(', ')', '|', '[', ']', '{', '}', '^', '$', '#', '&', '-', '~']

/-- May a backslash stand before the character without a meaning of its own? -/
def isEscapable (c : Char) : Bool :=
  metaCharacters.contains c || (c.toNat < 0x80 && !c.isAlphanum && c != '<' && c != '>')

/-- What a letter or bracket after a backslash stands for: an assertion, a class, or a control character. -/
def lettered? (c : Char) : Option Written :=
  match c with
  | 'A' => some .textStart
  | 'z' => some .textEnd
  | 'B' => some (.word .noBoundary)
  | '<' => some (.word .start)
  | '>' => some (.word .stop)
  | 'd' => some (.letterClass .digit false)
  | 'D' => some (.letterClass .digit true)
  | 's' => some (.letterClass .blank false)
  | 'S' => some (.letterClass .blank true)
  | 'w' => some (.letterClass .word false)
  | 'W' => some (.letterClass .word true)
  | 'a' => some (.char (Char.ofNat 7) false)
  | 'f' => some (.char (Char.ofNat 12) false)
  | 't' => some (.char '\t' false)
  | 'n' => some (.char '\n' false)
  | 'r' => some (.char '\r' false)
  | 'v' => some (.char (Char.ofNat 11) false)
  | _ => none

/-- The word assertion with a name. -/
def namedBoundary? (name : String) : Option WordAssertion :=
  match name with
  | "start" => some .start
  | "end" => some .stop
  | "start-half" => some .startHalf
  | "end-half" => some .stopHalf
  | _ => none

/-- May the character stand in the name of a word assertion? -/
def isBoundaryChar (c : Char) : Bool := c.isAlpha || c == '-'

/-- Reads what may follow the letter of a word boundary: a name in braces, unless the braces hold a count. -/
def readBoundary? (sp : Spacing) (s : List Char) : Option (Read Written (s.length + 1)) :=
  match readChar? '{' s with
  | some brace =>
    match sp.next? brace.rest with
    | none => none
    | some c =>
      if isBoundaryChar c.value then do
        let name ← readBraced? sp brace.rest
        let kind ← namedBoundary? (String.ofList name.value)
        return (brace.andThen (name.map fun _ => .word kind).afterOne).afterOne
      else some (Read.nothing (.word .boundary) s)
  | none => some (Read.nothing (.word .boundary) s)

/-- Reads an escape after its backslash. -/
def readEscape? (sp : Spacing) (s : List Char) : Option (Read Written s.length) :=
  match s with
  | [] => none
  | c :: rest =>
    if c = 'x' then readHex? sp 2 rest
    else if c = 'u' then readHex? sp 4 rest
    else if c = 'U' then readHex? sp 8 rest
    else if c = 'p' ∨ c = 'P' then (readProperty? sp (c = 'P') rest).map Read.afterOne
    else if isEscapable c then some (Read.first (.char c false) c rest)
    else if c = 'b' then readBoundary? sp rest
    else (lettered? c).map fun w => Read.first w c rest

end Phrasebook.Regex
