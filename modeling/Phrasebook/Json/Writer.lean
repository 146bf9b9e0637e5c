import Phrasebook.Json.Basic
import Phrasebook.Number.Plain
import Phrasebook.Text.Quoted

/-!
# Writing JSON

A value is written on one line, or with every item and member on a line of its own, indented by its depth. Strings
escape quotes, backslashes and control characters and nothing else. A number that is not whole by kind is written with
the fewest digits that read back, and always with a point or an exponent.
-/

namespace Phrasebook.Json

open Text Number

/-! ## Strings -/

/-- A control character as an escape of four digits. -/
def controlEscape (c : Char) : List Char :=
  let digits := hexDigits c.toNat
  ['\\', 'u'] ++ (zeros (4 - digits.length) ++ digits)

/-- The written form of a character inside a string. -/
def escapeChar (c : Char) : List Char :=
  if c = '"' then ['\\', '"']
  else if c = '\\' then ['\\', '\\']
  else if c.toNat = 8 then ['\\', 'b']
  else if c.toNat = 12 then ['\\', 'f']
  else if c = '\n' then ['\\', 'n']
  else if c = '\r' then ['\\', 'r']
  else if c = '\t' then ['\\', 't']
  else if c.toNat < 0x20 then controlEscape c
  else [c]

/-- The written form of a string. -/
def writeString (s : String) : List Char := '"' :: (s.toList.flatMap escapeChar ++ ['"'])

/-! ## Numbers -/

/-- The written form of an integer. -/
def writeInteger (n : Int) : List Char := signText (n < 0) ++ digitsOf n.natAbs

/-- An exponent with its sign. -/
def exponentText (e : Int) : List Char := (if e < 0 then '-' else '+') :: digitsOf e.natAbs

/-- Digits with a point after the first. -/
def pointAfterFirst : List Char → List Char
  | [] => []
  | [d] => [d]
  | d :: rest => d :: '.' :: rest

/-- A decimal with a point or an exponent: an exponent stands where the first digit is past the sixteenth place before
the point or the fifth after it. -/
def writeDecimal (d : Decimal) : List Char :=
  let digits := digitsOf d.digits
  let lead : Int := d.exponent + (digits.length - 1)
  if -5 ≤ lead ∧ lead ≤ 15 then if 0 ≤ d.exponent then d.plain ++ ['.', '0'] else d.plain
  else pointAfterFirst digits ++ 'e' :: exponentText lead

/-- The written form of a binary64 value; values that are not finite have none of their own. -/
def writeReal : Number → List Char
  | .finite negative mantissa exponent => signText negative ++ writeDecimal (shortest .toEven mantissa exponent)
  | _ => ['n', 'u', 'l', 'l']

/-! ## Values -/

/-- What stands between two lines of the given depth: nothing where there is no indentation. -/
def lineBreak (indent depth : Nat) : List Char :=
  if indent = 0 then [] else '\n' :: List.replicate (indent * depth) ' '

/-- The colon after the name of a member. -/
def colon (indent : Nat) : List Char := if indent = 0 then [':'] else [':', ' ']

mutual

/-- The written form of a value at a depth. -/
def write (indent depth : Nat) : Json → List Char
  | .null => ['n', 'u', 'l', 'l']
  | .bool true => ['t', 'r', 'u', 'e']
  | .bool false => ['f', 'a', 'l', 's', 'e']
  | .integer n => writeInteger n
  | .real x => writeReal x
  | .string s => writeString s
  | .array [] => ['[', ']']
  | .array (item :: items) =>
    '[' :: (lineBreak indent (depth + 1) ++ write indent (depth + 1) item ++ writeItems indent depth items)
  | .object [] => ['{', '}']
  | .object ((name, value) :: members) =>
    '{' :: (lineBreak indent (depth + 1) ++ writeString name ++ colon indent ++ write indent (depth + 1) value ++
      writeMembers indent depth members)

/-- The items after the first and the bracket that closes the array. -/
def writeItems (indent depth : Nat) : List Json → List Char
  | [] => lineBreak indent depth ++ [']']
  | item :: items =>
    ',' :: (lineBreak indent (depth + 1) ++ write indent (depth + 1) item ++ writeItems indent depth items)

/-- The members after the first and the brace that closes the object. -/
def writeMembers (indent depth : Nat) : List (String × Json) → List Char
  | [] => lineBreak indent depth ++ ['}']
  | (name, value) :: members =>
    ',' :: (lineBreak indent (depth + 1) ++ writeString name ++ colon indent ++ write indent (depth + 1) value ++
      writeMembers indent depth members)

end

/-- A value indented by `indent` spaces or, if that is zero, on one line. -/
def text (value : Json) (indent : Nat) : String := String.ofList (write indent 0 value)

/-- A value on one line. -/
def compact (value : Json) : String := value.text 0

/-- A value as a file holds it, with a line break at the end. -/
def render (value : Json) (indent : Nat) : String := value.text indent ++ "\n"

end Phrasebook.Json
