/-!
# `FacetSearch.Text.Punycode`: texts as ASCII letters, digits and hyphens

A text is written as its ASCII characters, a hyphen, and then, in increasing order of code point,
one number for each further character: how many places and code points to skip since the one before.
Numbers have digits of base 36, lowest first, and the thresholds that mark a last digit follow the
sizes of the numbers so far.
-/

set_option autoImplicit false

namespace FacetSearch.Punycode

/-- The character of a digit. -/
def digitChar (digit : Nat) : Char :=
  if digit < 26 then Char.ofNat (97 + digit) else Char.ofNat (48 + (digit - 26))

/-- The digit of a character, in either case. -/
def digitValue? (c : Char) : Option Nat :=
  if c.isLower then some (c.toNat - 97)
  else if c.isUpper then some (c.toNat - 65)
  else if c.isDigit then some (c.toNat - 48 + 26)
  else none

/-- The threshold of a place; a digit below it is the last one. Places count in steps of 36. -/
def threshold (place bias : Nat) : Nat := max 1 (min 26 (place - bias))

/-- Divides by 35 while the number is large, and counts 36 for each time. -/
def shrink : Nat → Nat → Nat → Nat × Nat
  | 0, size, steps => (size, steps)
  | fuel + 1, size, steps =>
      if 455 < size then shrink fuel (size / 35) (steps + 36) else (size, steps)

/-- The bias after a number, where `count` characters are placed. -/
def nextBias (number count : Nat) (first : Bool) : Nat :=
  let scaled := if first then number / 700 else number / 2
  let (size, steps) := shrink scaled (scaled + scaled / count) 0
  steps + 36 * size / (size + 38)

/-- The digits of a number. -/
def numberDigits (bias : Nat) : Nat → Nat → Nat → List Char
  | 0, _, _ => []
  | fuel + 1, place, number =>
      let t := threshold place bias
      if number < t then [digitChar number]
      else
        digitChar (t + (number - t) % (36 - t)) ::
          numberDigits bias fuel (place + 36) ((number - t) / (36 - t))

/-- What is written and how far: the digits, the number so far, the bias, and how many characters
are placed. -/
structure Written where
  digits : List Char := []
  number : Nat := 0
  bias : Nat := 72
  placed : Nat

/-- Passes one character of the text while the characters with a code point are written. -/
def pass (basicCount code : Nat) (w : Written) (c : Char) : Written :=
  if c.toNat < code then { w with number := w.number + 1 }
  else if c.toNat = code then
    { digits := w.digits ++ numberDigits w.bias (w.number + 1) 36 w.number
      number := 0
      bias := nextBias w.number (w.placed + 1) (w.placed == basicCount)
      placed := w.placed + 1 }
  else w

/-- Writes the characters of the text with one of the code points after the other. -/
def writeCodes (text : List Char) (basicCount : Nat) : List Nat → Nat → Written → Written
  | [], _, w => w
  | code :: codes, last, w =>
      let w := { w with number := w.number + (code - last) * (w.placed + 1) }
      let w := text.foldl (pass basicCount code) w
      writeCodes text basicCount codes (code + 1) { w with number := w.number + 1 }

/-- The text in Punycode. -/
def encode (text : List Char) : List Char :=
  let basic := text.filter fun c => decide (c.toNat < 128)
  let codes := ((text.map Char.toNat).filter fun n => decide (128 ≤ n)).eraseDups.mergeSort
    fun a b => decide (a ≤ b)
  basic ++ (if basic.isEmpty then [] else ['-']) ++
    (writeCodes text basic.length codes 128 { placed := basic.length }).digits

/-- Reads a number from its digits, and what follows. -/
def readNumber? (bias : Nat) : List Char → Nat → Nat → Nat → Option (Nat × List Char)
  | [], _, _, _ => none
  | c :: rest, place, weight, number =>
      match digitValue? c with
      | none => none
      | some digit =>
          let t := threshold place bias
          let number := number + digit * weight
          if digit < t then some (number, rest)
          else readNumber? bias rest (place + 36) (weight * (36 - t)) number

/-- Puts the characters that numbers stand for into a text. -/
def place? :
    Bool → Nat → List Char → Nat → Nat → Nat → List Char → Option (List Char)
  | _, 0, _, _, _, _, text => some text
  | _, _ + 1, [], _, _, _, text => some text
  | first, fuel + 1, digits, code, position, bias, text => do
      let (number, rest) ← readNumber? bias digits 36 1 0
      let count := text.length + 1
      let code := code + (position + number) / count
      let position := (position + number) % count
      if 1114111 < code then none
      let text := text.take position ++ Char.ofNat code :: text.drop position
      place? false fuel rest code (position + 1) (nextBias number count first) text

/-- The text of a Punycode. -/
def decode? (source : List Char) : Option (List Char) :=
  let digits := (source.reverse.takeWhile (· != '-')).reverse
  let basic := source.take (source.length - digits.length - 1)
  place? true (digits.length + 1) digits 128 0 72 basic

end FacetSearch.Punycode
