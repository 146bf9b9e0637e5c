import Phrasebook.Json.Basic
import Phrasebook.Text.Basic

/-!
# JSON numerals

A numeral is an integer part, decimals and an exponent, all as they are written. A numeral without decimals and
exponent that fits 64 bits names a whole number. Any other is read into a significand of 64 bits and a power of ten:
digits that no longer fit are dropped, and the significand is rounded once, scaled by rounded powers of ten up to `10 ^
308`, and refused if it grows past all numbers.
-/

namespace Phrasebook.Json

open Text

/-- A number as it is written; decimals and an exponent have at least one digit where they are written. -/
structure Numeral where
  negative : Bool
  integer : List Char
  decimals : List Char
  exponent : Option (Bool × List Char)
  deriving DecidableEq, Repr

namespace Numeral

/-- Is there neither a point nor an exponent? -/
def isWhole (n : Numeral) : Bool := n.decimals.isEmpty && n.exponent.isNone

/-- A significand holds what fits 64 bits. -/
def maxSignificand : Nat := 0xffffffffffffffff

/-- The significand extended by digits as far as they fit, and the digits from the first that does not. -/
def significand (start : Nat) : List Char → Nat × List Char
  | [] => (start, [])
  | c :: rest =>
    let next := 10 * start + (c.toNat - '0'.toNat)
    if maxSignificand < next then (start, c :: rest) else significand next rest

/-- The whole number of a numeral that fits: a negative one fits 63 bits and its sign, and is not zero. -/
def whole? (n : Numeral) : Option Int :=
  if n.isWhole then
    let magnitude := decimalNumber n.integer
    if n.negative then (if magnitude = 0 ∨ 0x8000000000000000 < magnitude then none else some (-magnitude))
    else if magnitude ≤ maxSignificand then some magnitude
    else none
  else none

/-- The exponent as it is written. -/
def writtenExponent (n : Numeral) : Int :=
  match n.exponent with
  | none => 0
  | some (negative, digits) => if negative then -(decimalNumber digits : Int) else decimalNumber digits

/-- `x * 10 ^ exponent`, or nothing where that is past all numbers. -/
def scale? (x : Number) (exponent : Int) : Option Number :=
  if 308 < exponent then if x.eq (Number.zero false) then some x else none
  else if 0 ≤ exponent then
    match x.mul (Number.ofDecimal false 1 exponent) with
    | .infinite _ => none
    | y => some y
  else if -308 ≤ exponent then some (x.div (Number.ofDecimal false 1 (-exponent)))
  else if x.eq (Number.zero false) then some x
  else scale? (x.div (Number.ofDecimal false 1 308)) (exponent + 308)
  termination_by (-exponent).toNat
  decreasing_by omega

/-- The number with a sign. -/
def signed (negative : Bool) : Number → Number
  | .nan => .nan
  | .infinite _ => .infinite negative
  | .finite _ mantissa exponent => .finite negative mantissa exponent

/-- The binary64 value of a numeral. -/
def real? (n : Numeral) : Option Number :=
  let (whole, dropped) := significand 0 n.integer
  let (all, unread) := significand whole n.decimals
  let used : Int := n.decimals.length - unread.length
  (scale? (.ofNat all) (dropped.length - used + n.writtenExponent)).map (signed n.negative)

/-- The value of a numeral. -/
def value? (n : Numeral) : Option Json :=
  match n.whole? with
  | some k => some (.integer k)
  | none => n.real?.map .real

end Numeral

end Phrasebook.Json
