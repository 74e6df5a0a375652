import FacetSearch.Text.Class

/-!
# `FacetSearch.Text.Digit`: decimal digits of every script

The decimal digits of Unicode 14 come in runs of ten, zero to nine, so a run is known by the code
point of its zero.
-/

set_option autoImplicit false

namespace FacetSearch

/-- The code points of the zeros. -/
def digitZeros : List Nat := [
  48, 1632, 1776, 1984, 2406, 2534, 2662, 2790, 2918, 3046, 3174, 3302, 3430, 3558, 3664, 3792,
  3872, 4160, 4240, 6112, 6160, 6470, 6608, 6784, 6800, 6992, 7088, 7232, 7248, 42528, 43216,
  43264, 43472, 43504, 43600, 44016, 65296, 66720, 68912, 69734, 69872, 69942, 70096, 70384,
  70736, 70864, 71248, 71360, 71472, 71904, 72016, 72784, 73040, 73120, 92768, 92864, 93008,
  120782, 120792, 120802, 120812, 120822, 123200, 123632, 125264, 130032]

/-- The number a decimal digit of any script stands for. -/
def decimalDigit? (c : Char) : Option Nat :=
  (digitZeros.find? fun start => decide (start ≤ c.toNat) && decide (c.toNat < start + 10)).map
    fun start => c.toNat - start

/-- A decimal digit of any script written with the ASCII digit; every other character stays. -/
def toAsciiDigit (c : Char) : Char :=
  match decimalDigit? c with
  | some value => value.digitChar
  | none => c

end FacetSearch
