/-!
# `FacetSearch.Number.Whole`: whole numbers in base ten

The text of a whole number is its digits without leading zeros, after a minus sign when negative.
Every whole number is taken to be short enough to print. The readers of numbers refuse more digits
than `digitLimit`; the writers have no such case, so what is proved of a written text is about whole
numbers that an interpreter with this limit prints.

Powers of two and of ten scale numbers exactly.
-/

set_option autoImplicit false

namespace FacetSearch

/-- A power of two. -/
def twoTo (exponent : Nat) : Nat := Nat.pow 2 exponent

/-- A power of ten. -/
def tenTo (exponent : Nat) : Nat := Nat.pow 10 exponent

/-- The digits of a natural number, without leading zeros. -/
def naturalText (n : Nat) : List Char := Nat.toDigits 10 n

/-- A whole number: its digits, after a minus sign when negative. There is a text for each, however
long it is. -/
def integerText (n : Int) : List Char :=
  if n < 0 then '-' :: naturalText n.natAbs else naturalText n.natAbs

end FacetSearch
