import FacetSearch.Number.Shortest
import FacetSearch.Number.Numeral

/-!
# `FacetSearch.Number.Decimal`: decimal floating-point numbers

A decimal keeps its coefficient and exponent apart, so `1.5` and `1.50` are different decimals of
one value, and its text shows both. The text is positional while the exponent is not positive and
at most five zeros follow the point, and scientific otherwise. Products keep twenty-eight digits,
a half going to the even neighbour, within limits on the exponent.
-/

set_option autoImplicit false

namespace FacetSearch

/-- A decimal number `± coefficient * 10 ^ exponent`, an infinity, or not-a-number with a diagnostic
payload. Trailing zeros of the coefficient count: decimals can differ and be equal as numbers. -/
inductive Decimal where
  | finite (negative : Bool) (coefficient : Nat) (exponent : Int)
  | infinite (negative : Bool)
  | nan (negative : Bool) (signaling : Bool) (payload : Nat)
  deriving DecidableEq

namespace Decimal

/-- Where the point goes: how many digits stand before it. -/
def pointPlace (digitCount : Nat) (exponent : Int) : Int :=
  let left := exponent + digitCount
  if exponent ≤ 0 ∧ -6 < left then left else 1

/-- Digits with a point after the first `place` of them, zeros filling up on either side. -/
def pointed (digits : List Char) (place : Int) : List Char :=
  if place ≤ 0 then '0' :: '.' :: (List.replicate (-place).toNat '0' ++ digits)
  else if digits.length ≤ place.toNat then
    digits ++ List.replicate (place.toNat - digits.length) '0'
  else digits.take place.toNat ++ '.' :: digits.drop place.toNat

/-- The text of a decimal, which keeps the coefficient and the exponent, so that it reads back to
the same parts. -/
def text : Decimal → List Char
  | .finite negative coefficient exponent =>
      let digits := naturalText coefficient
      let left := exponent + digits.length
      let place := pointPlace digits.length exponent
      let power := left - place
      let mark :=
        if power = 0 then []
        else 'E' :: (if power < 0 then '-' else '+') :: naturalText power.natAbs
      (if negative then ['-'] else []) ++ pointed digits place ++ mark
  | .infinite negative => (if negative then ['-'] else []) ++ "Infinity".toList
  | .nan negative signaling payload =>
      (if negative then ['-'] else []) ++ (if signaling then ['s'] else []) ++ "NaN".toList ++
        (if payload = 0 then [] else naturalText payload)

/-- Reads digits with a fraction and an exponent. -/
def readFinite? (negative : Bool) (digits : List Char) : Option Decimal :=
  let whole := digits.takeWhile Char.isDigit
  let (fraction, rest) :=
    match digits.dropWhile Char.isDigit with
    | '.' :: rest => (rest.takeWhile Char.isDigit, rest.dropWhile Char.isDigit)
    | rest => ([], rest)
  match naturalOf? (whole ++ fraction), Binary64.readExponent? rest with
  | some coefficient, some exponent =>
      some (.finite negative coefficient (exponent - fraction.length))
  | _, _ => none

/-- Reads a diagnostic payload, which may be missing and is then zero. -/
def readPayload? (digits : List Char) : Option Nat :=
  if digits.isEmpty then some 0 else naturalOf? digits

/-- Reads a decimal; names are taken in any case, and underscores anywhere are dropped. -/
def read? (source : List Char) : Option Decimal :=
  let (negative, rest) := splitSign (((trimWhiteSpace source).filter (· != '_')).map toAsciiDigit)
  match rest.map Char.toLower with
  | ['i', 'n', 'f'] => some (.infinite negative)
  | ['i', 'n', 'f', 'i', 'n', 'i', 't', 'y'] => some (.infinite negative)
  | 'n' :: 'a' :: 'n' :: payload => (readPayload? payload).map (.nan negative false)
  | 's' :: 'n' :: 'a' :: 'n' :: payload => (readPayload? payload).map (.nan negative true)
  | _ => readFinite? negative rest

/-- Neither infinite nor not-a-number. -/
def isFinite : Decimal → Bool
  | .finite .. => true
  | _ => false

/-- A finite value as a numerator over a power of ten, not in lowest terms. -/
def ratio? : Decimal → Option (Int × Nat)
  | .finite negative coefficient exponent =>
      some (signed negative (coefficient * tenTo exponent.toNat), tenTo (-exponent).toNat)
  | _ => none

/-- A finite value with its fraction cut off, towards zero. -/
def truncate? (d : Decimal) : Option Int :=
  d.ratio?.map fun (num, den) => Int.tdiv num den

/-- The whole number a finite decimal is, if it is one. -/
def integer? (d : Decimal) : Option Int :=
  match d.ratio? with
  | some (num, den) => if num % (den : Int) = 0 then some (num / (den : Int)) else none
  | none => none

/-- The nearest double. A signaling not-a-number has none. -/
def toBinary64? : Decimal → Option Binary64
  | .finite negative coefficient exponent => some (Binary64.ofDecimal negative coefficient exponent)
  | .infinite negative => some (.infinite negative)
  | .nan _ signaling _ => if signaling then none else some .nan

/-- The number of digits products keep, in the context that is usual. -/
def precision : Nat := 28

/-- The largest power of ten that the first digit of a product may stand for, and the negative of
the smallest one at which a product still keeps all its digits. -/
def exponentLimit : Int := 999999

/-- The smallest exponent of a product. -/
def leastExponent : Int := -exponentLimit - (precision - 1)

/-- Why a product is refused. -/
inductive Refusal where
  /-- It has no value. -/
  | undefined
  /-- It lies past the largest decimal. -/
  | overflow
  deriving DecidableEq

/-- A coefficient without its last `surplus` digits, a half going to the even neighbour. -/
def withoutDigits (coefficient surplus : Nat) : Nat :=
  Binary64.roundQuotient coefficient (tenTo surplus)

/-- A finite product: at most `precision` digits, and no exponent below the least one. A zero has an
exponent within the limits. -/
def rounded (negative : Bool) (coefficient : Nat) (exponent : Int) : Except Refusal Decimal :=
  if coefficient = 0 then
    .ok (.finite negative 0 (max leastExponent (min exponent exponentLimit)))
  else
    let digitCount := (naturalText coefficient).length
    let surplus := max (digitCount - precision) (leastExponent - exponent).toNat
    let kept := if surplus = 0 then coefficient
      else if digitCount < surplus then 0 else withoutDigits coefficient surplus
    let (kept, exponent) :=
      if kept = tenTo precision then (tenTo (precision - 1), exponent + surplus + 1)
      else (kept, exponent + surplus)
    if exponentLimit < exponent + (naturalText kept).length - 1 then .error .overflow
    else .ok (.finite negative kept exponent)

/-- The product with a decimal. A not-a-number that does not signal is passed on, with its sign and
payload. -/
def mul : Decimal → Decimal → Except Refusal Decimal
  | .nan _ true _, _ => .error .undefined
  | _, .nan _ true _ => .error .undefined
  | .nan negative _ payload, _ => .ok (.nan negative false payload)
  | _, .nan negative _ payload => .ok (.nan negative false payload)
  | .infinite a, .infinite b => .ok (.infinite (a != b))
  | .infinite a, .finite b n _ => if n = 0 then .error .undefined else .ok (.infinite (a != b))
  | .finite a m _, .infinite b => if m = 0 then .error .undefined else .ok (.infinite (a != b))
  | .finite a m e, .finite b n f => rounded (a != b) (m * n) (e + f)

/-- A whole number as a decimal. -/
def ofInt (n : Int) : Decimal := .finite (decide (n < 0)) n.natAbs 0

end Decimal

end FacetSearch
