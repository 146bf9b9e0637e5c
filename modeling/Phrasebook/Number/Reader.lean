import Phrasebook.Number.Basic
import Phrasebook.Text.Basic

/-!
# Reading numbers

The texts that name a number: an optional sign, then `inf`, `infinity` or `nan` in any case, or decimal digits with at
most one point and an optional exponent. At least one digit stands before the exponent; nothing else, no blank and no
separator, may occur.
-/

namespace Phrasebook.Number

open Text

/-- The two signs; a text without one is positive. -/
def takeSign : List Char → Bool × List Char
  | '-' :: rest => (true, rest)
  | '+' :: rest => (false, rest)
  | rest => (false, rest)

/-- The exponent after the digits: nothing, or the mark, an optional sign and at least one digit up to the end. -/
def exponentOf? : List Char → Option Int
  | [] => some 0
  | mark :: rest =>
    if mark = 'e' ∨ mark = 'E' then
      let (negative, digits) := takeSign rest
      if digits.isEmpty || !digits.all Char.isDigit then none
      else
        let n : Int := decimalNumber digits
        some (if negative then -n else n)
    else none

/-- Digits, a point among or beside them, and an exponent. -/
def ofDigits? (negative : Bool) (s : List Char) : Option Number :=
  let integer := s.takeWhile Char.isDigit
  let (fraction, rest) :=
    match s.dropWhile Char.isDigit with
    | '.' :: rest => (rest.takeWhile Char.isDigit, rest.dropWhile Char.isDigit)
    | rest => ([], rest)
  if integer.isEmpty && fraction.isEmpty then none
  else (exponentOf? rest).map fun exponent =>
    ofDecimal negative (decimalNumber (integer ++ fraction)) (exponent - fraction.length)

/-- The number that a text names, if it names one. -/
def ofText? (s : List Char) : Option Number :=
  let (negative, rest) := takeSign s
  let word := rest.map Char.toLower
  if word = ['i', 'n', 'f'] ∨ word = ['i', 'n', 'f', 'i', 'n', 'i', 't', 'y'] then some (.infinite negative)
  else if word = ['n', 'a', 'n'] then some .nan
  else ofDigits? negative rest

end Phrasebook.Number
