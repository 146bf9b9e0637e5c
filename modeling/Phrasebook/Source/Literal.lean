import Phrasebook.Number.Reader
import Phrasebook.Source.Error
import Phrasebook.Text.Read
import Phrasebook.Unicode.Alphabetic
import Phrasebook.Unicode.Numeric

/-!
# Object literals in source text

An object literal with nothing but literals in it: names or quoted strings as keys, and strings, numbers, `true`,
`false`, `null` and `undefined` as values. A value that goes on after a literal is an expression and is refused. The
places of errors are counted in bytes of UTF-8.
-/

namespace Phrasebook

open Text Unicode

/-- A value in an object literal. -/
inductive Literal where
  | string (s : List Char)
  | number
  | bool (b : Bool)
  /-- Both `null` and `undefined`. -/
  | null
  deriving DecidableEq, Repr

namespace Literal

/-- The place where `unread` begins, in a text of `total` bytes. -/
def offsetOf (total : Nat) (unread : List Char) : Nat := total - byteLength unread

/-- Reads one given character. -/
def expect (total : Nat) (wanted : Char) (what : String) (s : List Char) :
    Except DescriptorError (Read Unit s.length) :=
  match s with
  | [] => .error (.expected what (offsetOf total []))
  | c :: rest => if c = wanted then .ok (Read.first () c rest) else .error (.expected what (offsetOf total (c :: rest)))

/-! ## Strings -/

/-- The number in hexadecimal digits, with or without a plus in front. -/
def escapedNumber? : List Char → Option Nat
  | '+' :: digits => hexNumber? digits
  | digits => hexNumber? digits

/-- Reads the code point of an escape, after its letter: four digits, or any number of them in braces. -/
def readCodePoint? (s : List Char) : Option (Read Char s.length) :=
  match s with
  | '{' :: rest =>
    match readThrough? '}' rest with
    | none => none
    | some digits => ((escapedNumber? digits.value).bind charOf?).map fun c => (digits.map fun _ => c).afterOne
  | a :: b :: c :: d :: rest =>
    ((escapedNumber? [a, b, c, d]).bind charOf?).map fun e => (Read.first e d rest).afterOne.afterOne.afterOne
  | _ => none

/-- What a letter after a backslash stands for. -/
def escaped (c : Char) : Char :=
  if c = 'n' then '\n' else if c = 't' then '\t' else if c = 'r' then '\r' else if c = '0' then '\x00' else c

/-- Reads an escape after its backslash. The letter of a code point stands for itself if no code point follows. -/
def readEscape? (s : List Char) : Option (Read Char s.length) :=
  match s with
  | [] => none
  | c :: rest =>
    match if c = 'u' then readCodePoint? rest else none with
    | some point => some point.afterOne
    | none => some (Read.first (escaped c) c rest)

/-- Reads a character of a string or an escape, as the characters that it adds to the text. Between backquotes a dollar
sign before a brace is dropped, so that an interpolation reads as a placeholder. -/
def readUnit? (quote : Char) (s : List Char) : Option (Read (List Char) s.length) :=
  match s with
  | [] => none
  | c :: rest =>
    if c = '\\' then (readEscape? rest).map fun e => (e.map fun e => [e]).afterOne
    else if c = '$' ∧ quote.toNat = 0x60 ∧ rest.head? = some '{' then some (Read.first [] c rest)
    else some (Read.first [c] c rest)

/-- Reads the rest of a string up to its closing quote. -/
def readString? (quote : Char) (s : List Char) : Option (Read (List Char) s.length) :=
  match readChar? quote s with
  | some closed => some (closed.map fun _ => [])
  | none => do
    let unit ← readUnit? quote s
    let body ← readString? quote unit.rest
    return unit.andThen (body.map (unit.value ++ ·)).afterOne
  termination_by s.length
  decreasing_by exact unit.below

/-- Reads a string after its opening quote; `start` is the place of that quote. -/
def readString (start : Nat) (quote : Char) (s : List Char) : Except DescriptorError (Read (List Char) s.length) :=
  match readString? quote s with
  | some body => .ok body
  | none => .error (.unterminatedString start)

/-! ## Keys -/

/-- May the character begin a name? -/
def startsName (c : Char) : Bool := isAlphabetic c || c == '_' || c == '$'

/-- May the character stand in a name? -/
def isNameChar (c : Char) : Bool := isAlphanumeric c || c == '_' || c == '$'

/-- Reads a name that begins with `c`. -/
def readName (c : Char) (s : List Char) : Read (List Char) (c :: s).length :=
  (Read.ofRun isNameChar s).map (c :: ·)

/-- Reads a key. -/
def readKey (total : Nat) (s : List Char) : Except DescriptorError (Read (List Char) s.length) :=
  match s with
  | [] => .error (.expected "property name" (offsetOf total []))
  | c :: rest =>
    if c = '\'' ∨ c = '"' then do
      let key ← readString (offsetOf total (c :: rest)) c rest
      return key.afterOne
    else if startsName c then .ok (readName c rest)
    else .error (.expected "property name" (offsetOf total (c :: rest)))

/-! ## Values -/

/-- May the character begin a number? -/
def startsNumber (c : Char) : Bool := c.isDigit || c == '-' || c == '+' || c == '.'

/-- May the character stand in a number? -/
def isNumberChar (c : Char) : Bool := c.isAlphanum || c == '.' || c == '-' || c == '+'

/-- The literal that a name stands for. -/
def ofName? (name : String) : Option Literal :=
  match name with
  | "true" => some (.bool true)
  | "false" => some (.bool false)
  | "null" => some .null
  | "undefined" => some .null
  | _ => none

/-- May a literal end before this text? -/
def endsLiteral (s : List Char) : Bool :=
  match s with
  | [] => true
  | c :: _ => c == ',' || c == '}'

/-- Reads a literal without looking at what follows it; what begins none is no literal. -/
def readSimple? (total : Nat) (s : List Char) : Except DescriptorError (Option (Read Literal s.length)) :=
  match s with
  | [] => .ok none
  | c :: rest =>
    if c = '\'' ∨ c = '"' ∨ c.toNat = 0x60 then do
      let body ← readString (offsetOf total (c :: rest)) c rest
      return some (body.map .string).afterOne
    else if startsNumber c then
      let token := Read.ofRun isNumberChar rest
      .ok ((Number.ofText? (c :: token.value)).map fun _ => token.map fun _ => .number)
    else if startsName c then
      let name := readName c rest
      .ok ((ofName? (String.ofList name.value)).map fun literal => name.map fun _ => literal)
    else .ok none

/-- Reads a literal and the white space after it. -/
def read? (total : Nat) (s : List Char) : Except DescriptorError (Option (Read Literal s.length)) := do
  match ← readSimple? total s with
  | none => return none
  | some literal =>
    if endsLiteral (skipBlank literal.rest) then
      return some (literal.andThen (skippedBlank literal.value literal.rest))
    else return none

/-- Reads a key, its value, and the white space around them. -/
def readEntry (total : Nat) (s : List Char) : Except DescriptorError (Read (String × Literal) s.length) := do
  let start := skippedBlank () s
  let key ← readKey total start.rest
  let name := String.ofList key.value
  let beforeColon := skippedBlank () key.rest
  let colon ← expect total ':' "':'" beforeColon.rest
  let beforeValue := skippedBlank () colon.rest
  match ← read? total beforeValue.rest with
  | none => .error (.notALiteral name)
  | some literal =>
    let entry := beforeValue.perhapsThen (literal.map fun value => (name, value))
    return start.perhapsThen (key.andThen (beforeColon.perhapsThen (colon.andThen entry.afterOne)).afterOne)

/-- Reads the entries of an object and the brace that closes it. -/
def readEntries (total : Nat) (s : List Char) : Except DescriptorError (Read (List (String × Literal)) s.length) :=
  match readMark? '}' s with
  | some closed => .ok (closed.map fun _ => [])
  | none => do
    let entry ← readEntry total s
    match readChar? ',' entry.rest with
    | some comma =>
      let entries ← readEntries total comma.rest
      return entry.andThen (comma.andThen (entries.map (entry.value :: ·)).afterOne).afterOne
    | none =>
      let closed ← expect total '}' "',' or '\x7d'" entry.rest
      return entry.andThen (closed.map fun _ => [entry.value]).afterOne
  termination_by s.length
  decreasing_by exact Nat.lt_trans comma.below entry.below

/-- The entries of an object literal that is the whole text, in their order. -/
def entriesOf (text : String) : Except DescriptorError (List (String × Literal)) := do
  let s := text.toList
  let total := byteLength s
  let brace ← expect total '{' "'\x7b'" (skipBlank s)
  let entries ← readEntries total brace.rest
  if (skipBlank entries.rest).isEmpty then return entries.value
  else .error (.expected "end of descriptor" (offsetOf total (skipBlank entries.rest)))

end Literal

end Phrasebook
