import Phrasebook.Number.Shortest

/-!
# Numbers in plain notation

How a number stands in a message: its shortest decimal, never with an exponent and without a fraction that is zero.
-/

namespace Phrasebook.Number

/-- The decimal digits of a natural number. -/
def digitsOf (n : Nat) : List Char := Nat.toDigits 10 n

/-- As many zeros. -/
def zeros (n : Nat) : List Char := List.replicate n '0'

/-- A decimal without an exponent: zeros fill the places up to the point, and a point is written only before digits. -/
def Decimal.plain (d : Decimal) : List Char :=
  let digits := digitsOf d.digits
  if 0 ≤ d.exponent then digits ++ zeros d.exponent.toNat
  else
    let places := (-d.exponent).toNat
    if places < digits.length then digits.take (digits.length - places) ++ '.' :: digits.drop (digits.length - places)
    else '0' :: '.' :: (zeros (places - digits.length) ++ digits)

/-- The sign of a negative number. -/
def signText (negative : Bool) : List Char := if negative then ['-'] else []

/-- The text of a number. A half goes up, and zero keeps its sign. -/
def plain : Number → String
  | .nan => "NaN"
  | .infinite negative => String.ofList (signText negative ++ ['i', 'n', 'f'])
  | .finite negative mantissa exponent =>
    String.ofList (signText negative ++ (shortest .up mantissa exponent).plain)

end Phrasebook.Number
