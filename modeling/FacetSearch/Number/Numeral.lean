import FacetSearch.Number.Binary64
import FacetSearch.Number.Whole
import FacetSearch.Text.Blank
import FacetSearch.Text.Digit

/-!
# `FacetSearch.Number.Numeral`: reading numbers

A whole number is a sign and digits; a double is a sign with digits, a fraction and an exponent,
or the name of an infinity or of not-a-number. Two conventions surround these grammars. A lenient
reader, for counts and for settings of the environment, takes the digits of every script and single
underscores between digits. A field reader, for fields of declared number type, takes ASCII digits
and single underscores anywhere inside the text, and whole numbers with zeros around them.
-/

set_option autoImplicit false

namespace FacetSearch

/-- The digits of a whole number as a value, where every character is an ASCII digit and there is
at least one. -/
def naturalOf? (digits : List Char) : Option Nat :=
  if digits.isEmpty || !digits.all Char.isDigit then none else some (Nat.ofDigitChars 10 digits 0)

/-- An optional sign: whether it is a minus, and what follows it. One sign is taken at most. -/
def splitSign : List Char → Bool × List Char
  | '-' :: rest => (true, rest)
  | '+' :: rest => (false, rest)
  | text => (false, text)

/-- A whole number with its sign. -/
def signed (negative : Bool) (magnitude : Nat) : Int :=
  if negative then -(magnitude : Int) else magnitude

/-- Takes out the underscores that stand between two digits; any other underscore refuses the
text. The flag tells whether a digit came just before. -/
def joinDigitGroups : Bool → List Char → Option (List Char)
  | _, [] => some []
  | afterDigit, '_' :: rest =>
      match rest with
      | next :: _ => if afterDigit && next.isDigit then joinDigitGroups false rest else none
      | [] => none
  | _, c :: rest => (joinDigitGroups c.isDigit rest).map (c :: ·)

/-- More digits than this are refused in a whole number, since reading them takes quadratic time. -/
def digitLimit : Nat := 4300

/-- A whole number with an optional sign, digits of every script and single underscores between
digits, in white space. -/
def lenientInteger? (text : List Char) : Option Int := do
  let (negative, digits) := splitSign ((trimWhiteSpace text).map toAsciiDigit)
  let joined ← joinDigitGroups false digits
  let magnitude ← naturalOf? joined
  if joined.length ≤ digitLimit then some (signed negative magnitude) else none

namespace Binary64

/-- The double nearest to `± coefficient * 10 ^ power`. Powers beyond every double are cut short
before any large number is built. -/
def ofDecimal (negative : Bool) (coefficient : Nat) (power : Int) : Binary64 :=
  let magnitude : Int := (naturalText coefficient).length + power
  if coefficient = 0 then ofRatio negative 0 1
  else if 400 < magnitude then .infinite negative
  else if magnitude < -400 then ofRatio negative 0 1
  else ofRatio negative (coefficient * tenTo power.toNat) (tenTo (-power).toNat)

/-- The exponent part of a number, which may be missing and is then zero. -/
def readExponent? : List Char → Option Int
  | [] => some 0
  | mark :: rest =>
      if mark = 'e' ∨ mark = 'E' then
        let (negative, digits) := splitSign rest
        (naturalOf? digits).map (signed negative)
      else none

/-- Digits with a fraction and an exponent; at least one digit before or after the point. -/
def readDecimal? (negative : Bool) (text : List Char) : Option Binary64 :=
  let whole := text.takeWhile Char.isDigit
  let (fraction, rest) :=
    match text.dropWhile Char.isDigit with
    | '.' :: rest => (rest.takeWhile Char.isDigit, rest.dropWhile Char.isDigit)
    | rest => ([], rest)
  match naturalOf? (whole ++ fraction), readExponent? rest with
  | some coefficient, some exponent =>
      some (ofDecimal negative coefficient (exponent - fraction.length))
  | _, _ => none

/-- A double: a sign, then a decimal number or one of the names, in any case. -/
def read? (text : List Char) : Option Binary64 :=
  let (negative, rest) := splitSign text
  let name := String.ofList (rest.map Char.toLower)
  if name = "inf" ∨ name = "infinity" then some (.infinite negative)
  else if name = "nan" then some .nan
  else readDecimal? negative rest

/-- A double under the lenient convention. -/
def lenient? (text : List Char) : Option Binary64 :=
  (joinDigitGroups false ((trimWhiteSpace text).map toAsciiDigit)).bind read?

end Binary64

/-- Underscores taken out, where none is first, last or beside another. -/
def dropUnderscores? (text : List Char) : Option (List Char) :=
  let rec go : Bool → List Char → Option (List Char)
    | afterUnderscore, [] => if afterUnderscore then none else some []
    | afterUnderscore, '_' :: rest => if afterUnderscore then none else go true rest
    | _, c :: rest => (go false rest).map (c :: ·)
  go true text

/-- A double in a field of declared type: in white space, or with underscores, but not both. -/
def fieldDouble? (text : List Char) : Option Binary64 :=
  match Binary64.read? (trimWhiteSpace text) with
  | some x => some x
  | none => (dropUnderscores? text).bind Binary64.read?

/-- Why the text of a whole number is refused. -/
inductive IntegerFault where
  | unreadable
  /-- It has more than `digitLimit` digits. -/
  | oversized
  deriving DecidableEq

/-- What a text without a plus sign is when its leading zeros, and the underscores among them, are
dropped. A number may start after them even with its minus sign; before a point, and at the end, the
last of them stays. -/
def dropLeadingZeros? (text : List Char) : Option (List Char) :=
  match text with
  | '0' :: _ =>
      let zeros := text.takeWhile fun c => c == '0' || c == '_'
      match text.dropWhile fun c => c == '0' || c == '_' with
      | [] => zeros.getLast?.map ([·])
      | '.' :: rest => zeros.getLast?.map fun last => last :: '.' :: rest
      | c :: rest => if c = '-' ∨ c.isDigit then some (c :: rest) else none
  | c :: _ => if c = '-' ∨ c.isDigit then some text else none
  | [] => none

/-- A text without its fraction, where that is a point and zeros. -/
def dropZeroFraction (text : List Char) : List Char :=
  match text.dropWhile (· != '.') with
  | '.' :: zeros =>
      if !zeros.isEmpty && zeros.all (· == '0') then text.takeWhile (· != '.') else text
  | _ => text

/-- A text without its plus sign. -/
def dropPlus : List Char → List Char
  | '+' :: '-' :: rest => '+' :: '-' :: rest
  | '+' :: rest => rest
  | text => text

/-- What remains of a field's text to be read as a minus sign and digits. -/
def plainDigits? (text : List Char) : Option (List Char) := do
  let number ← dropLeadingZeros? (dropPlus (trimWhiteSpace text))
  dropUnderscores? (dropZeroFraction number)

/-- A minus sign and digits. -/
def readDigits (text : List Char) : Except IntegerFault Int :=
  let (negative, digits) :=
    match text with
    | '-' :: rest => (true, rest)
    | _ => (false, text)
  if digitLimit < (digits.takeWhile Char.isDigit).length then .error .oversized
  else
    match naturalOf? digits with
    | some magnitude => .ok (signed negative magnitude)
    | none => .error .unreadable

/-- A whole number in a field of declared type. White space may surround it, a plus sign and zeros
stand before it, single underscores inside it, and a fraction of zeros after it. -/
def fieldInteger (text : List Char) : Except IntegerFault Int :=
  match plainDigits? text with
  | some digits => readDigits digits
  | none => .error .unreadable

end FacetSearch
