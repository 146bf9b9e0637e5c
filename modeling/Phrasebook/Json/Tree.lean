import Phrasebook.Json.Numeral
import Phrasebook.Text.Read

/-!
# JSON texts as trees

The first stage of reading JSON keeps what is written: numerals instead of numbers, every member of an object even if
its name comes twice, and a mark in place of a string whose escapes name half of a surrogate pair. What a reader of the
tree never looks at can therefore not be refused for its meaning, only for its form.
-/

namespace Phrasebook.Json

open Text

/-- A JSON text. A string is `none` if it names no text. -/
inductive Tree where
  | null
  | bool (b : Bool)
  | number (n : Numeral)
  | string (s : Option String)
  | array (items : List Tree)
  | object (members : List (Option String × Tree))
  deriving Repr

namespace Tree

/-- Is the character white space of JSON? -/
def isSpace (c : Char) : Bool := c == ' ' || c == '\n' || c == '\t' || c == '\r'

/-- The text after white space. -/
def skipSpace (s : List Char) : List Char := s.dropWhile isSpace

theorem length_skipSpace_le (s : List Char) : (skipSpace s).length ≤ s.length := length_dropWhile_le isSpace s

/-- Reads a character and the white space before it. -/
def readNext? (s : List Char) : Option (Read Char s.length) :=
  (readAny? (skipSpace s)).map (·.widen (length_skipSpace_le s))

/-! ## Strings -/

/-- Is the number the first half of a surrogate pair? -/
def isHighSurrogate (n : Nat) : Bool := 0xd800 ≤ n && n ≤ 0xdbff

/-- Is the number the second half of a surrogate pair? -/
def isLowSurrogate (n : Nat) : Bool := 0xdc00 ≤ n && n ≤ 0xdfff

/-- The characters of numbers that are code points or halves of surrogate pairs. -/
def joinSurrogates : List Nat → Option (List Char)
  | [] => some []
  | [n] => (charOf? n).map fun c => [c]
  | n :: m :: rest =>
    if isHighSurrogate n && isLowSurrogate m then do
      let c ← charOf? (0x10000 + (n - 0xd800) * 0x400 + (m - 0xdc00))
      return c :: (← joinSurrogates rest)
    else do
      let c ← charOf? n
      return c :: (← joinSurrogates (m :: rest))

/-- What a letter after a backslash stands for. -/
def escaped? (c : Char) : Option Char :=
  if c = '"' ∨ c = '\\' ∨ c = '/' then some c
  else if c = 'b' then some (Char.ofNat 8)
  else if c = 'f' then some (Char.ofNat 12)
  else if c = 'n' then some '\n'
  else if c = 'r' then some '\r'
  else if c = 't' then some '\t'
  else none

/-- Reads a character or an escape in a string, as a code point or half of a surrogate pair. -/
def readUnit? (s : List Char) : Option (Read Nat s.length) :=
  match s with
  | [] => none
  | '\\' :: 'u' :: a :: b :: c :: d :: rest =>
    (hexNumber? [a, b, c, d]).map fun n => (Read.first n d rest).afterOne.afterOne.afterOne.afterOne.afterOne
  | '\\' :: c :: rest => (escaped? c).map fun e => (Read.first e.toNat c rest).afterOne
  | c :: rest => if c.toNat < 0x20 ∨ c = '\\' then none else some (Read.first c.toNat c rest)

/-- Reads the rest of a string up to its closing quote. -/
def readUnits? (s : List Char) : Option (Read (List Nat) s.length) :=
  match readChar? '"' s with
  | some closed => some (closed.map fun _ => [])
  | none => do
    let unit ← readUnit? s
    let units ← readUnits? unit.rest
    return unit.andThen (units.map (unit.value :: ·)).afterOne
  termination_by s.length
  decreasing_by exact unit.below

/-- Reads the rest of a string, after its opening quote. -/
def readString? (s : List Char) : Option (Read (Option String) s.length) := do
  let units ← readUnits? s
  return units.map fun numbers => (joinSurrogates numbers).map String.ofList

/-! ## Numerals -/

/-- Reads one digit or more. -/
def readDigits? (s : List Char) : Option (Read (List Char) s.length) :=
  if h : s.takeWhile Char.isDigit = [] then none
  else some ⟨s.takeWhile Char.isDigit, s.dropWhile Char.isDigit, length_dropWhile_lt h⟩

/-- Reads an integer part, which has no zero in front of other digits. -/
def readInteger? (s : List Char) : Option (Read (List Char) s.length) := do
  let digits ← readDigits? s
  if digits.value.head? = some '0' ∧ digits.value.length ≠ 1 then none else return digits

/-- Reads a point and the digits after it, if there is a point. -/
def readDecimals? (s : List Char) : Option (Read (List Char) (s.length + 1)) :=
  match s with
  | '.' :: rest => do
    let digits ← readDigits? rest
    return digits.afterOne.afterOne
  | s => some (Read.nothing [] s)

/-- Reads the sign of an exponent; is it a minus? -/
def readSign (s : List Char) : Read Bool (s.length + 1) :=
  match s with
  | '-' :: rest => (Read.first true '-' rest).afterOne
  | '+' :: rest => (Read.first false '+' rest).afterOne
  | s => Read.nothing false s

/-- Reads an exponent, if there is one. -/
def readExponent? (s : List Char) : Option (Read (Option (Bool × List Char)) (s.length + 1)) :=
  match s with
  | [] => some (Read.nothing none [])
  | c :: rest =>
    if c = 'e' ∨ c = 'E' then do
      let sign := readSign rest
      let digits ← readDigits? sign.rest
      return (sign.andThen (digits.map fun digits => some (sign.value, digits)).afterOne).afterOne
    else some (Read.nothing none (c :: rest))

/-- Reads a numeral after its sign. -/
def readNumeral? (negative : Bool) (s : List Char) : Option (Read Tree s.length) := do
  let integer ← readInteger? s
  let decimals ← readDecimals? integer.rest
  let exponent ← readExponent? decimals.rest
  let numeral := exponent.map fun exponent => .number ⟨negative, integer.value, decimals.value, exponent⟩
  return integer.andThen (decimals.andThen numeral)

/-! ## Values -/

/-- Reads a comma, or the bracket that closes a list, after an item; is it a comma? -/
def readSeparator? (closing : Char) (s : List Char) : Option (Read Bool s.length) := do
  let c ← readNext? s
  if c.value = ',' ∨ c.value = closing then return c.map (· == ',') else none

/-- Reads the bracket that closes a list without items. -/
def readEmpty? (closing : Char) (s : List Char) : Option (Read Unit s.length) := do
  let c ← readNext? s
  if c.value = closing then return c.map fun _ => () else none

/-- Reads the name of a member and the colon after it. -/
def readKey? (s : List Char) : Option (Read (Option String) s.length) := do
  let quote ← readNext? s
  if quote.value = '"' then
    let name ← readString? quote.rest
    let colon ← readNext? name.rest
    if colon.value = ':' then
      return quote.andThen (name.andThen (colon.map fun _ => name.value).afterOne).afterOne
    else none
  else none

/-- Reads a word that names a value. -/
def readWord? (word : List Char) (t : Tree) (s : List Char) : Option (Read Tree (s.length + 1)) :=
  (readPrefix? word s).map fun read => read.map fun _ => t

mutual

/-- Reads a value and the white space before it. -/
def readValue? (s : List Char) : Option (Read Tree s.length) := do
  let c ← readNext? s
  let value ← readAfter? c.value c.rest
  return c.andThen value
  termination_by 3 * s.length
  decreasing_by
    have := c.below
    omega

/-- Reads a value that begins with the character `c`. -/
def readAfter? (c : Char) (s : List Char) : Option (Read Tree (s.length + 1)) :=
  if c = 'n' then readWord? ['u', 'l', 'l'] .null s
  else if c = 't' then readWord? ['r', 'u', 'e'] (.bool true) s
  else if c = 'f' then readWord? ['a', 'l', 's', 'e'] (.bool false) s
  else if c = '"' then do
    let text ← readString? s
    return (text.map .string).afterOne
  else if c = '-' then do
    let numeral ← readNumeral? true s
    return numeral.afterOne
  else if c = '[' then
    match readEmpty? ']' s with
    | some closed => some (closed.map fun _ => .array []).afterOne
    | none => do
      let items ← readItems? s
      return (items.map .array).afterOne
  else if c = '{' then
    match readEmpty? '}' s with
    | some closed => some (closed.map fun _ => .object []).afterOne
    | none => do
      let members ← readMembers? s
      return (members.map .object).afterOne
  else readNumeral? false (c :: s)
  termination_by 3 * s.length + 2

/-- Reads the items of an array and the bracket that closes it. -/
def readItems? (s : List Char) : Option (Read (List Tree) s.length) := do
  let item ← readValue? s
  let comma ← readSeparator? ']' item.rest
  if comma.value then
    let items ← readItems? comma.rest
    return item.andThen (comma.andThen (items.map (item.value :: ·)).afterOne).afterOne
  else return item.andThen (comma.map fun _ => [item.value]).afterOne
  termination_by 3 * s.length + 1
  decreasing_by
    · exact Nat.lt_succ_self _
    · have := Nat.lt_trans comma.below item.below
      omega

/-- Reads the members of an object and the brace that closes it. -/
def readMembers? (s : List Char) : Option (Read (List (Option String × Tree)) s.length) := do
  let name ← readKey? s
  let value ← readValue? name.rest
  let member := name.andThen (value.map fun value => (name.value, value)).afterOne
  let comma ← readSeparator? '}' member.rest
  if comma.value then
    let members ← readMembers? comma.rest
    return member.andThen (comma.andThen (members.map (member.value :: ·)).afterOne).afterOne
  else return member.andThen (comma.map fun _ => [member.value]).afterOne
  termination_by 3 * s.length + 1
  decreasing_by
    · have := name.below
      omega
    · have := Nat.lt_trans comma.below member.below
      omega

end

/-- The tree of a JSON text. -/
def read? (text : String) : Option Tree := do
  let value ← readValue? text.toList
  if (skipSpace value.rest).isEmpty then return value.value else none

end Tree

end Phrasebook.Json
