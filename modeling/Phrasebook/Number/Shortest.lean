import Phrasebook.Number.Basic

/-!
# The shortest decimal of a number

A binary64 value stands for all real numbers that round to it. Among the decimals in that interval those with the
fewest digits are the shortest, and of two neighbours on one decimal grid the nearer is taken. The ends of the interval
belong to it iff the mantissa is even, because a tie rounds to the even neighbour.
-/

namespace Phrasebook.Number

/-- The decimal `digits * 10 ^ exponent`. -/
structure Decimal where
  digits : Nat
  exponent : Int
  deriving DecidableEq, Repr

/-- What to do with a value half way between two decimals of one length. -/
inductive Tie where
  | up
  | toEven
  deriving DecidableEq, Repr

/-- The largest power of ten at most `mantissa * 2 ^ exponent`, given as its exponent, for a positive mantissa. The
guess from the binary length is exact or one too small. -/
def leadingPlace (mantissa : Nat) (exponent : Int) : Int :=
  let guess : Int := ((mantissa.log2 : Int) + exponent) * 30103 / 100000
  let above := guess + 1
  if pow10 above * pow2 (-exponent) ≤ mantissa * pow2 exponent * pow10 (-above) then above else guess

/-- The point nearest to `mantissa * 2 ^ exponent` among the multiples of `10 ^ place` that round to it. All lengths are
measured in quarters of the value's last binary place. -/
def nearestOnGrid? (tie : Tie) (mantissa : Nat) (exponent place : Int) : Option Nat :=
  let step := pow10 place * pow2 (2 - exponent)
  let quarter := pow2 (exponent - 2) * pow10 (-place)
  let value := 4 * mantissa * quarter
  let down := if mantissa = pow2 52 ∧ exponent ≠ -1074 then quarter else 2 * quarter
  let lower := value / step
  let upper := lower + 1
  let belowBy := value - lower * step
  let aboveBy := upper * step - value
  let closed := mantissa % 2 = 0
  let lowerHits := belowBy < down ∨ closed ∧ belowBy = down
  let upperHits := aboveBy < 2 * quarter ∨ closed ∧ aboveBy = 2 * quarter
  if lowerHits ∧ upperHits then
    if belowBy < aboveBy then some lower
    else if aboveBy < belowBy then some upper
    else match tie with
      | .up => some upper
      | .toEven => some (if lower % 2 = 0 then lower else upper)
  else if lowerHits then some lower
  else if upperHits then some upper
  else none

/-- The shortest decimal that rounds to `mantissa * 2 ^ exponent`. Seventeen digits always suffice. -/
def shortest (tie : Tie) (mantissa : Nat) (exponent : Int) : Decimal :=
  if mantissa = 0 then ⟨0, 0⟩
  else
    let lead := leadingPlace mantissa exponent
    let found := (List.range 17).findSome? fun (more : Nat) =>
      let place := lead - more
      (nearestOnGrid? tie mantissa exponent place).map fun digits =>
        if digits = pow10 (more + 1) then Decimal.mk 1 (lead + 1) else ⟨digits, place⟩
    found.getD
      ⟨mantissa * pow2 exponent * pow10 (16 - lead) / (pow2 (-exponent) * pow10 (lead - 16)), lead - 16⟩

end Phrasebook.Number
