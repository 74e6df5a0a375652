import FacetSearch.Failure
import FacetSearch.Value.Key

/-!
# `FacetSearch.Value.Arithmetic`: page numbers and page sizes as they come

Callers may pass page numbers and sizes of any number type, and the few operations on them keep the
type: a product of doubles is a double, a product with a decimal a decimal. Values that are no
numbers are refused, and so is a product of a double and a decimal.
-/

set_option autoImplicit false

namespace FacetSearch.Value

/-- Strictly above zero. The double that is not-a-number is not, and the decimal one cannot be
compared. -/
def isPositive : Value → Except Failure Bool
  | .decimal (.nan ..) => .error .undefinedOperation
  | .float .nan => .ok false
  | other =>
      match other.quantity? with
      | some x => .ok ((Quantity.ofInt 0).isBelow x)
      | none => .error .unsupported

/-- Strictly below one. The double that is not-a-number is not, so it passes for the size of a
page. -/
def isBelowOne : Value → Except Failure Bool
  | .decimal (.nan ..) => .error .undefinedOperation
  | .float .nan => .ok false
  | other =>
      match other.quantity? with
      | some x => .ok (x.isBelow (Quantity.ofInt 1))
      | none => .error .unsupported

/-- A number, or zero instead of one that is not positive. A positive number keeps its type. -/
def atLeastZero (v : Value) : Except Failure Value := do
  return if ← v.isPositive then v else .int 0

/-- A flag or whole number as a whole number. A flag counts as zero or one in products. -/
def whole? : Value → Option Int
  | .bool flag => some (if flag then 1 else 0)
  | .int number => some number
  | _ => none

/-- A whole number as a double, where the doubles reach that far. Rounding is no failure, but
overflow is. -/
def doubleOf (n : Int) : Except Failure Binary64 :=
  let x := Binary64.ofInt n
  if x.isFinite then .ok x else .error .beyondDoubles

/-- The product of two decimals, or the failure of the decimal context when there is none. -/
def decimalProduct (x y : Decimal) : Except Failure Value :=
  match x.mul y with
  | .ok product => .ok (.decimal product)
  | .error .undefined => .error .undefinedOperation
  | .error .overflow => .error .beyondDecimals

/-- The product of two numbers. Two of one type stay in it, and a whole number is taken into the
type of the other. A double and a decimal have no product. -/
def times (a b : Value) : Except Failure Value :=
  match a, b with
  | .float x, .float y => .ok (.float (x.mul y))
  | .decimal x, .decimal y => decimalProduct x y
  | .float x, other =>
      match other.whole? with
      | some n => do return .float (x.mul (← doubleOf n))
      | none => .error .unsupported
  | other, .float y =>
      match other.whole? with
      | some n => do return .float ((← doubleOf n).mul y)
      | none => .error .unsupported
  | .decimal x, other =>
      match other.whole? with
      | some n => decimalProduct x (Decimal.ofInt n)
      | none => .error .unsupported
  | other, .decimal y =>
      match other.whole? with
      | some n => decimalProduct (Decimal.ofInt n) y
      | none => .error .unsupported
  | x, y =>
      match x.whole?, y.whole? with
      | some m, some n => .ok (.int (m * n))
      | _, _ => .error .unsupported

end FacetSearch.Value
