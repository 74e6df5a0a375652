import FacetSearch.Number.Binary64
import FacetSearch.Number.Whole

/-!
# `FacetSearch.Number.Shortest`: the fewest digits that read back

A positive finite double rounds back from every decimal in an interval around it, whose ends
belong to it when the significand is even. `shortest` looks for a decimal in that interval with
one digit, then two, up to seventeen, which always suffice; on each grid it tests the two
neighbours of the double, and of two that fit it takes the nearer, a tie going to the even one.
All comparisons are between natural numbers.

`Binary64.text` lays the digits out: positional from `0.0001` up to sixteen digits before the
point, with a trailing `.0` on whole numbers, and scientific with a signed exponent of at least
two digits outside that range.
-/

set_option autoImplicit false

namespace FacetSearch

/-- The decimal number `0.digits * 10 ^ point`, which is how a number is held before it is laid
out. -/
structure DecimalDigits where
  /-- The digits after the point, the first of them not zero. -/
  digits : List Char
  /-- How many digits stand before the decimal point of the number. -/
  point : Int
  deriving DecidableEq

namespace Binary64

/-- The power of ten just above `num / den`: the number lies in `[10 ^ (k - 1), 10 ^ k)`. -/
def decimalPoint (num den : Nat) : Int :=
  if den ≤ num then ((naturalText (num / den)).length : Int)
  else 1 - ((naturalText ((den - 1) / num)).length : Int)

/-- The interval that rounds to `m * 2 ^ e`, in quarters of `2 ^ e`: lower end, the number itself,
upper end, and whether the ends belong to it. -/
structure RoundingInterval where
  low : Nat
  middle : Nat
  high : Nat
  closed : Bool

/-- The rounding interval of a significand. Just above a power of two the grid below is finer. The
ends round to the even significand, so they belong to it when this is even. -/
def roundingInterval (significand : Nat) (exponent : Int) : RoundingInterval where
  low := 4 * significand -
    if significand = twoTo 52 ∧ exponent ≠ -1074 then 1 else 2
  middle := 4 * significand
  high := 4 * significand + 2
  closed := significand % 2 == 0

/-- Whether `candidate * 10 ^ power` lies in the interval, whose unit is `unitNum / unitDen`. -/
def RoundingInterval.holds (i : RoundingInterval) (unitNum unitDen candidate : Nat) (power : Int) :
    Bool :=
  let scaled := candidate * tenTo power.toNat * unitDen
  let unit := unitNum * tenTo (-power).toNat
  if i.closed then decide (i.low * unit ≤ scaled) && decide (scaled ≤ i.high * unit)
  else decide (i.low * unit < scaled) && decide (scaled < i.high * unit)

/-- The best decimal with `count` digits in the interval, as a whole number of units
`10 ^ (point - count)`. -/
def RoundingInterval.bestOf (i : RoundingInterval) (unitNum unitDen : Nat) (point : Int)
    (count : Nat) : Option Nat :=
  let power := point - count
  let den := unitDen * tenTo power.toNat
  let num := i.middle * unitNum * tenTo (-power).toNat
  let below := num / den
  let twice := 2 * (num % den)
  match i.holds unitNum unitDen below power, i.holds unitNum unitDen (below + 1) power with
  | true, true =>
      if twice < den then some below
      else if den < twice then some (below + 1)
      else if below % 2 = 0 then some below else some (below + 1)
  | true, false => some below
  | false, true => some (below + 1)
  | false, false => none

/-- Tries `count` digits, then one more, at most `fuel` times; the last resort is zero, which
seventeen digits never reach. -/
def RoundingInterval.search (i : RoundingInterval) (unitNum unitDen : Nat) (point : Int) :
    Nat → Nat → Nat × Nat
  | 0, count => (0, count)
  | fuel + 1, count =>
      match i.bestOf unitNum unitDen point count with
      | some candidate => (candidate, count)
      | none => i.search unitNum unitDen point fuel (count + 1)

/-- The trailing zeros of a digit string taken off. They come up when rounding carries. -/
def dropTrailingZeros (digits : List Char) : List Char :=
  (digits.reverse.dropWhile (· == '0')).reverse

/-- The fewest digits that read back as the positive double `significand * 2 ^ exponent`, and of
these the nearest. Seventeen are always enough. -/
def shortest (significand : Nat) (exponent : Int) : DecimalDigits :=
  let unitNum := twoTo (exponent - 2).toNat
  let unitDen := twoTo (2 - exponent).toNat
  let i := roundingInterval significand exponent
  let point := decimalPoint (i.middle * unitNum) unitDen
  let (candidate, count) := i.search unitNum unitDen point 17 1
  let digits := naturalText candidate
  ⟨dropTrailingZeros digits, point + digits.length - count⟩

/-- The exponent mark of scientific notation: a sign and at least two digits. -/
def exponentText (n : Int) : List Char :=
  let digits := naturalText n.natAbs
  let padded := if digits.length < 2 then '0' :: digits else digits
  'e' :: (if n < 0 then '-' else '+') :: padded

/-- Positional or scientific layout of nonzero digits. Numbers between `0.0001` and `10^16` are
positional. -/
def layout (d : DecimalDigits) : List Char :=
  if -4 < d.point ∧ d.point ≤ 16 then
    if d.point ≤ 0 then
      '0' :: '.' :: (List.replicate (-d.point).toNat '0' ++ d.digits)
    else if d.digits.length ≤ d.point.toNat then
      d.digits ++ List.replicate (d.point.toNat - d.digits.length) '0' ++ ['.', '0']
    else d.digits.take d.point.toNat ++ '.' :: d.digits.drop d.point.toNat
  else
    match d.digits with
    | [] => []
    | [first] => first :: exponentText (d.point - 1)
    | first :: rest => first :: '.' :: (rest ++ exponentText (d.point - 1))

/-- The text of a double: the shortest decimal that reads back, and a name for what is no number. A
whole double has a fraction of zero. -/
def text : Binary64 → List Char
  | .finite negative significand exponent _ =>
      let magnitude :=
        if significand = 0 then ['0', '.', '0'] else layout (shortest significand exponent)
      if negative then '-' :: magnitude else magnitude
  | .infinite negative => if negative then "-inf".toList else "inf".toList
  | .nan => "nan".toList

end Binary64

end FacetSearch
