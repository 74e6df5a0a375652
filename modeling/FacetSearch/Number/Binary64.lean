import FacetSearch.Number.Whole

/-!
# `FacetSearch.Number.Binary64`: doubles as exact numbers

A double is a sign, a significand and an exponent in canonical form, an infinity, or
not-a-number. Nothing here runs floating-point hardware: every value is the exact number
`± significand * 2 ^ exponent`, and the one inexact step is `ofRatio`, which rounds a quotient to
the nearest double with ties to the even significand. Two doubles are equal as data exactly when
they are the same double, so `0.0` and `-0.0` differ and not-a-number equals itself.
-/

set_option autoImplicit false

namespace FacetSearch

namespace Binary64

/-- The canonical pairs: at most 53 bits of significand, and fewer only on the finest grid. -/
def Canonical (significand : Nat) (exponent : Int) : Prop :=
  significand < twoTo 53 ∧ -1074 ≤ exponent ∧ exponent ≤ 971 ∧
    (exponent = -1074 ∨ twoTo 52 ≤ significand)

instance (significand : Nat) (exponent : Int) : Decidable (Canonical significand exponent) :=
  inferInstanceAs (Decidable (_ ∧ _ ∧ _ ∧ _))

end Binary64

/-- An IEEE 754 double. A finite one has its canonical pair, so doubles are equal when their parts
are, and only the sign tells two zeros apart. -/
inductive Binary64 where
  | finite (negative : Bool) (significand : Nat) (exponent : Int)
      (canonical : Binary64.Canonical significand exponent)
  | infinite (negative : Bool)
  | nan
  deriving DecidableEq

namespace Binary64

/-- `± significand * 2 ^ exponent`, where a pair past the largest double is an infinity. The callers
round first, so the pair is canonical or past the largest. -/
def ofScaled (negative : Bool) (significand : Nat) (exponent : Int) : Binary64 :=
  if h : Canonical significand exponent then .finite negative significand exponent h
  else .infinite negative

/-- The quotient rounded to a whole number, a half going to the even neighbour. -/
def roundQuotient (num den : Nat) : Nat :=
  let q := num / den
  let r := num % den
  if 2 * r < den then q
  else if den < 2 * r then q + 1
  else if q % 2 = 0 then q else q + 1

/-- The largest `k` with `2 ^ k ≤ num / den`, for positive `num` and `den`. -/
def floorLog (num den : Nat) : Int :=
  let guess : Int := (num.log2 : Int) - (den.log2 : Int)
  if den * twoTo guess.toNat ≤ num * twoTo (-guess).toNat then guess else guess - 1

/-- The double nearest to `± num / den`, a half going to the even neighbour. The exponent is chosen
first, and rounding can only take the significand to the next power of two. -/
def ofRatio (negative : Bool) (num den : Nat) : Binary64 :=
  if num = 0 then ofScaled negative 0 (-1074)
  else
    let exponent := max (-1074) (floorLog num den - 52)
    let significand := roundQuotient (num * twoTo (-exponent).toNat) (den * twoTo exponent.toNat)
    if significand = twoTo 53 then ofScaled negative (twoTo 52) (exponent + 1)
    else ofScaled negative significand exponent

/-- The double nearest to a whole number. -/
def ofInt (n : Int) : Binary64 := ofRatio (decide (n < 0)) n.natAbs 1

/-- Neither infinite nor not-a-number. -/
def isFinite : Binary64 → Bool
  | .finite .. => true
  | _ => false

/-- The value as a numerator over a power of two; infinities and not-a-number have none. -/
def ratio? : Binary64 → Option (Int × Nat)
  | .finite negative significand exponent _ =>
      let scaled : Int := (significand * twoTo exponent.toNat : Nat)
      some (if negative then -scaled else scaled, twoTo (-exponent).toNat)
  | _ => none

/-- The whole number a finite double is, if it is one. From `2^53` on every double is. -/
def integer? (x : Binary64) : Option Int :=
  match x.ratio? with
  | some (num, den) => if num % (den : Int) = 0 then some (num / (den : Int)) else none
  | none => none

/-- A finite double with its fraction cut off, towards zero. -/
def truncate? (x : Binary64) : Option Int :=
  x.ratio?.map fun (num, den) => Int.tdiv num den

/-- The sign bit; not-a-number counts as positive. -/
def isNegative : Binary64 → Bool
  | .finite negative .. => negative
  | .infinite negative => negative
  | .nan => false

/-- Zero of either sign. -/
def isZero : Binary64 → Bool
  | .finite _ significand .. => significand == 0
  | _ => false

/-- The product, rounded once. An infinity times zero is not-a-number. -/
def mul (x y : Binary64) : Binary64 :=
  let negative := x.isNegative != y.isNegative
  match x, y with
  | .nan, _ => .nan
  | _, .nan => .nan
  | .infinite _, _ => if y.isZero then .nan else .infinite negative
  | _, .infinite _ => if x.isZero then .nan else .infinite negative
  | .finite _ m e _, .finite _ n f _ =>
      let exponent := e + f
      ofRatio negative (m * n * twoTo exponent.toNat) (twoTo (-exponent).toNat)

end Binary64

end FacetSearch
