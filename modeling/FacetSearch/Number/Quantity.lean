import FacetSearch.Number.Decimal

/-!
# `FacetSearch.Number.Quantity`: comparing numbers of every kind

Whole numbers, doubles and decimals are compared by the quantity that they stand for, never after a
conversion. A quantity is a quotient or an infinity; not-a-number has none and compares with
nothing.
-/

set_option autoImplicit false

namespace FacetSearch

/-- A place on the extended number line: a quotient, which need not be in lowest terms, or one of
the two ends. -/
inductive Quantity where
  | ratio (num : Int) (den : Nat)
  | infinite (negative : Bool)

namespace Quantity

/-- The quantity of a whole number. -/
def ofInt (n : Int) : Quantity := .ratio n 1

/-- The quantity of a double. Not-a-number has none. -/
def ofBinary64? : Binary64 → Option Quantity
  | .infinite negative => some (.infinite negative)
  | x => x.ratio?.map fun (num, den) => .ratio num den

/-- The quantity of a decimal. Not-a-number has none. -/
def ofDecimal? : Decimal → Option Quantity
  | .infinite negative => some (.infinite negative)
  | d => d.ratio?.map fun (num, den) => .ratio num den

/-- Equality of quantities, by cross multiplication. So a double and a decimal are equal only when
they are exactly. -/
def same : Quantity → Quantity → Bool
  | .ratio a b, .ratio c d => a * (d : Int) == c * (b : Int)
  | .infinite a, .infinite b => a == b
  | _, _ => false

/-- Strict order of quantities. The ends lie below and above all quotients. -/
def isBelow : Quantity → Quantity → Bool
  | .ratio a b, .ratio c d => decide (a * (d : Int) < c * (b : Int))
  | .ratio .., .infinite negative => !negative
  | .infinite negative, .ratio .. => negative
  | .infinite a, .infinite b => a && !b

end Quantity

end FacetSearch
