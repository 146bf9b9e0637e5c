/-!
# Numbers

The numbers of messages are binary64 values: not a number, the two infinities, and `± mantissa * 2 ^ exponent`. Every
operation is the exact one, computed on natural numbers, followed by one rounding to the nearest value with ties to even
(`Number.ofRatio`), so that nothing here rests on the machine's own arithmetic.
-/

namespace Phrasebook

/-- A binary64 value. Rounding yields mantissas below `2 ^ 53`, exponents from `-1074` to `971`, and a mantissa below
`2 ^ 52` only with the least exponent. -/
inductive Number where
  | nan
  | infinite (negative : Bool)
  | finite (negative : Bool) (mantissa : Nat) (exponent : Int)
  deriving DecidableEq, Repr

namespace Number

/-- Zero with a sign. -/
def zero (negative : Bool) : Number := .finite negative 0 (-1074)

/-- Two to a power; one where the exponent is negative, so that `pow2 e / pow2 (-e)` is the power for every exponent. -/
def pow2 (e : Int) : Nat := Nat.pow 2 e.toNat

/-- Ten to a power; one where the exponent is negative. -/
def pow10 (e : Int) : Nat := Nat.pow 10 e.toNat

/-- The quotient rounded to the nearest integer, a half to the even neighbour. -/
def roundToEven (num den : Nat) : Nat :=
  let q := num / den
  let r := 2 * (num % den)
  if r < den then q else if den < r then q + 1 else if q % 2 = 0 then q else q + 1

/-- The value with the given mantissa and exponent, or an infinity where the exponent is out of range. -/
def place (negative : Bool) (mantissa : Nat) (exponent : Int) : Number :=
  if 971 < exponent then .infinite negative else .finite negative mantissa exponent

/-- The value nearest to `± num / den`: the exponent is chosen so that the mantissa has 53 bits, or is the least one. -/
def ofRatio (negative : Bool) (num den : Nat) : Number :=
  if num = 0 then zero negative
  else
    let low : Int := (num.log2 : Int) - den.log2 - 53
    let fit := if pow2 53 * (den * pow2 low) ≤ num * pow2 (-low) then low + 1 else low
    let exponent := max fit (-1074)
    let mantissa := roundToEven (num * pow2 (-exponent)) (den * pow2 exponent)
    if mantissa = pow2 53 then place negative (pow2 52) (exponent + 1) else place negative mantissa exponent

/-- The value nearest to `± mantissa * 2 ^ exponent`. -/
def ofDyadic (negative : Bool) (mantissa : Nat) (exponent : Int) : Number :=
  ofRatio negative (mantissa * pow2 exponent) (pow2 (-exponent))

/-- The value nearest to a natural number. -/
def ofNat (n : Nat) : Number := ofRatio false n 1

/-- The value nearest to an integer. -/
def ofInt (n : Int) : Number := ofRatio (n < 0) n.natAbs 1

/-- The value nearest to `± digits * 10 ^ exponent`. Magnitudes far beyond the range are settled before the power of ten
is computed. -/
def ofDecimal (negative : Bool) (digits : Nat) (exponent : Int) : Number :=
  if digits = 0 then zero negative
  else
    let places : Int := (digits.log2 * 30103 / 100000 : Nat)
    if 400 < exponent + places then .infinite negative
    else if exponent + places < -400 then zero negative
    else ofRatio negative (digits * pow10 exponent) (pow10 (-exponent))

/-- The value without its sign. -/
def abs : Number → Number
  | .nan => .nan
  | .infinite _ => .infinite false
  | .finite _ m e => .finite false m e

/-- Is the value below zero? -/
def isNegative : Number → Bool
  | .nan => false
  | .infinite negative => negative
  | .finite negative m _ => negative && m != 0

/-- A mantissa with its sign, scaled from its exponent down to a smaller one. -/
def scaled (negative : Bool) (mantissa : Nat) (exponent least : Int) : Int :=
  let n : Int := (mantissa * pow2 (exponent - least) : Nat)
  if negative then -n else n

/-- Numeric equality: zero equals zero whatever the signs, and what is not a number equals nothing. -/
def eq : Number → Number → Bool
  | .infinite a, .infinite b => a == b
  | .finite a m e, .finite b n f => scaled a m e (min e f) == scaled b n f (min e f)
  | _, _ => false

/-- Subtraction. -/
def sub : Number → Number → Number
  | .nan, _ => .nan
  | _, .nan => .nan
  | .infinite a, .infinite b => if a = b then .nan else .infinite a
  | .infinite a, .finite .. => .infinite a
  | .finite .., .infinite b => .infinite (!b)
  | .finite a m e, .finite b n f =>
    let least := min e f
    let difference := scaled a m e least - scaled b n f least
    if difference = 0 then zero (a && !b) else ofDyadic (difference < 0) difference.natAbs least

/-- Multiplication. -/
def mul : Number → Number → Number
  | .nan, _ => .nan
  | _, .nan => .nan
  | .infinite a, .infinite b => .infinite (a != b)
  | .infinite a, .finite b n _ => if n = 0 then .nan else .infinite (a != b)
  | .finite a m _, .infinite b => if m = 0 then .nan else .infinite (a != b)
  | .finite a m e, .finite b n f => ofDyadic (a != b) (m * n) (e + f)

/-- Division. -/
def div : Number → Number → Number
  | .nan, _ => .nan
  | _, .nan => .nan
  | .infinite _, .infinite _ => .nan
  | .infinite a, .finite b _ _ => .infinite (a != b)
  | .finite a _ _, .infinite b => zero (a != b)
  | .finite a m e, .finite b n f =>
    if n = 0 then (if m = 0 then .nan else .infinite (a != b))
    else ofRatio (a != b) (m * pow2 (e - f)) (n * pow2 (f - e))

/-- The largest natural number that is at most `mantissa * 2 ^ exponent`. -/
def floorOf (mantissa : Nat) (exponent : Int) : Nat := mantissa * pow2 exponent / pow2 (-exponent)

/-- The magnitude if it is a whole number. -/
def whole? : Number → Option Nat
  | .finite _ m e => if m * pow2 e % pow2 (-e) = 0 then some (floorOf m e) else none
  | _ => none

/-- The whole number nearest to the magnitude, a half away from zero; the infinities stay. -/
def roundMagnitude : Number → Number
  | .nan => .nan
  | .infinite _ => .infinite false
  | .finite _ m e => ofNat ((2 * m * pow2 e + pow2 (-e)) / (2 * pow2 (-e)))

end Number

end Phrasebook
