import FacetSearch.Number.Numeral
import FacetSearch.Text.CodePoint
import FacetSearch.Text.Hexadecimal
import FacetSearch.Value.Key

/-!
# `FacetSearch.Json.Read`: reading JSON

The reader takes the JSON grammar and three names more: `NaN`, `Infinity` and `-Infinity`. A number
with a fraction or an exponent is a double and any other a whole number, which may have at most 4300
digits. Control characters must be escaped inside strings. An escaped surrogate pair is one
character. A surrogate that stands alone, escaped or not, is kept as one inside a string and can
stand nowhere else. A repeated key takes the last value. Brackets that stand in one another deeper
than a limit are a fault of their own, which is found where it stands: what is malformed before it
is found first.

Of two steps at least one consumes a character, so twice the length of the text bounds their number.
-/

set_option autoImplicit false

namespace FacetSearch.Json

/-- The blanks between tokens: these four and no other white space. -/
def isSpace (point : CodePoint) : Bool :=
  point == .char ' ' || point == .char '\t' || point == .char '\n' || point == .char '\r'

/-- The text after leading blanks. -/
def skipSpace (text : List CodePoint) : List CodePoint := text.dropWhile isSpace

/-- What follows a word at the start of a text. The word may be the start of a longer one, which is
then found out behind it. -/
def afterWord? : List Char → List CodePoint → Option (List CodePoint)
  | [], text => some text
  | _ :: _, [] => none
  | w :: word, point :: text => if point = .char w then afterWord? word text else none

/-- Four hexadecimal digits as a UTF-16 unit, and what follows. Digits of both cases are read. -/
def readUnit? : List CodePoint → Option (Nat × List CodePoint)
  | .char a :: .char b :: .char c :: .char d :: rest => do
      let a ← hexValue? a
      let b ← hexValue? b
      let c ← hexValue? c
      let d ← hexValue? d
      return (((a * 16 + b) * 16 + c) * 16 + d, rest)
  | _ => none

/-- The code point of an escaped unit, and what follows: a high surrogate takes a low one that is
escaped right after it. -/
def readEscapedPoint (unit : Nat) (rest : List CodePoint) : CodePoint × List CodePoint :=
  match rest with
  | .char '\\' :: .char 'u' :: more =>
      match readUnit? more with
      | some (low, after) =>
          if CodePoint.isHigh unit && CodePoint.isLow low then (.ofPair unit low, after)
          else (.ofUnit unit, rest)
      | none => (.ofUnit unit, rest)
  | _ => (.ofUnit unit, rest)

/-- The character of a short escape. The solidus has one that is read and never written. -/
def shortEscape? (c : Char) : Option Char :=
  if c = '"' ∨ c = '\\' ∨ c = '/' then some c
  else if c = 'n' then some '\n'
  else if c = 't' then some '\t'
  else if c = 'r' then some '\r'
  else if c = 'b' then some (Char.ofNat 8)
  else if c = 'f' then some (Char.ofNat 12)
  else none

/-- The rest of a string after its opening quote, and what follows the closing one. Each step takes
a code point at least, so fuel for the length of the text is enough. -/
def readString? : Nat → List CodePoint → Option (List CodePoint × List CodePoint)
  | 0, _ => none
  | _ + 1, [] => none
  | _ + 1, .char '"' :: rest => some ([], rest)
  | fuel + 1, .char '\\' :: .char 'u' :: rest => do
      let (unit, after) ← readUnit? rest
      let (point, after) := readEscapedPoint unit after
      let (points, after) ← readString? fuel after
      return (point :: points, after)
  | fuel + 1, .char '\\' :: e :: rest => do
      let c ← e.char?.bind shortEscape?
      let (points, after) ← readString? fuel rest
      return (.char c :: points, after)
  -- Anything else stands for itself, but for a control character, which must be escaped.
  | fuel + 1, point :: rest => do
      if point = .char '\\' ∨ point.toNat < 32 then none
      let (points, after) ← readString? fuel rest
      return (point :: points, after)

/-- The digits at the start of a text, and what follows. There may be none. -/
def readDigits : List CodePoint → List Char × List CodePoint
  | .char c :: rest =>
      if c.isDigit then
        let (digits, after) := readDigits rest
        (c :: digits, after)
      else ([], .char c :: rest)
  | text => ([], text)

/-- Whether a text starts with a minus sign, and what follows the sign, which may be missing. -/
def readSign : List CodePoint → Bool × List CodePoint
  | .char '-' :: rest => (true, rest)
  | .char '+' :: rest => (false, rest)
  | text => (false, text)

/-- The whole part of a number: zero alone, or digits that start with another one. A digit behind
the zero is left for what comes next to refuse. -/
def readWhole? (text : List CodePoint) : Option (List Char × List CodePoint) :=
  match text with
  | .char '0' :: rest => some (['0'], rest)
  | _ =>
      let (digits, after) := readDigits text
      if digits.isEmpty then none else some (digits, after)

/-- The fraction of a number, which needs a digit after the point. Without one the point is left,
and no value starts with it. -/
def readFraction (text : List CodePoint) : List Char × List CodePoint :=
  match text with
  | .char '.' :: rest =>
      let (digits, after) := readDigits rest
      if digits.isEmpty then ([], text) else (digits, after)
  | _ => ([], text)

/-- The exponent of a number, which needs a digit after its mark and sign. Without one the mark is
left, and the text is malformed there. -/
def readExponent (text : List CodePoint) : Option Int × List CodePoint :=
  match text with
  | mark :: rest =>
      if mark = .char 'e' ∨ mark = .char 'E' then
        let (negative, rest) := readSign rest
        let (digits, after) := readDigits rest
        match naturalOf? digits with
        | some magnitude => (some (signed negative magnitude), after)
        | none => (none, text)
      else (none, text)
  | [] => (none, text)

/-- A number after its minus sign, if it had one. It is a whole number without a fraction and an
exponent, and a double otherwise, even when its value is whole. -/
def readNumber? (negative : Bool) (text : List CodePoint) : Option (Value × List CodePoint) := do
  let (whole, rest) ← readWhole? text
  let (fraction, rest) := readFraction rest
  let (exponent, rest) := readExponent rest
  if fraction.isEmpty && exponent.isNone then
    if digitLimit < whole.length then none
    return (.int (signed negative (Nat.ofDigitChars 10 whole 0)), rest)
  else
    let coefficient := Nat.ofDigitChars 10 (whole ++ fraction) 0
    return (.float (Binary64.ofDecimal negative coefficient (exponent.getD 0 - fraction.length)),
      rest)

/-- The values that are written by a name. The last three are no JSON, but the library that reads it
takes them. -/
def names : List (List Char × Value) :=
  [("null".toList, .null), ("true".toList, .bool true), ("false".toList, .bool false),
    ("NaN".toList, .float .nan), ("Infinity".toList, .float (.infinite false)),
    ("-Infinity".toList, .float (.infinite true))]

/-- A value written by its name. -/
def readName? (text : List CodePoint) : Option (Value × List CodePoint) :=
  names.findSome? fun (name, value) => (afterWord? name text).map fun rest => (value, rest)

/-- Why a text is not read. Callers tell the two apart: a malformed text is expected, and a stack
that runs out is not. -/
inductive Fault where
  | malformed
  /-- Brackets stand in one another too deep. -/
  | tooDeep
  deriving DecidableEq

/-- So many brackets may stand in one another before the stack of a reader runs out. -/
def depthLimit : Nat := 980

/-- What was read, or the fault of a malformed text. -/
def orMalformed {α : Type} (result : Option α) : Except Fault α :=
  result.elim (.error .malformed) .ok

mutual

/-- A value at the start of a text, and what follows it. Brackets stand in one another up to a
depth. The fuel bounds the steps and the depth bounds the brackets; with enough fuel only the depth
can keep a JSON text from being read. -/
def readValue (depth : Nat) : Nat → List CodePoint → Except Fault (Value × List CodePoint)
  | 0, _ => .error .malformed
  | _ + 1, [] => .error .malformed
  | fuel + 1, first :: rest =>
      if first = .char '"' then do
        let (content, after) ← orMalformed (readString? (rest.length + 1) rest)
        return (.text (.ofList content), after)
      else if first = .char '[' then
        if depth = 0 then .error .tooDeep
        else
          match skipSpace rest with
          | .char ']' :: after => .ok (.list [], after)
          | inner => do
              let (items, after) ← readItems (depth - 1) fuel inner
              return (.list items, after)
      else if first = .char '\x7b' then
        if depth = 0 then .error .tooDeep
        else
          match skipSpace rest with
          | .char '\x7d' :: after => .ok (.map [], after)
          | inner => do
              let (entries, after) ← readEntries (depth - 1) fuel inner
              return (Value.mapOf entries, after)
      else
        -- The negative infinity is a name, so names are tried before numbers.
        match readName? (first :: rest) with
        | some result => .ok result
        | none =>
            orMalformed <|
              if first = .char '-' then readNumber? true rest else readNumber? false (first :: rest)

/-- Items up to the closing bracket. -/
def readItems (depth : Nat) : Nat → List CodePoint → Except Fault (List Value × List CodePoint)
  | 0, _ => .error .malformed
  | fuel + 1, text => do
      let (item, after) ← readValue depth fuel text
      match skipSpace after with
      | .char ',' :: rest => do
          let (items, after) ← readItems depth fuel (skipSpace rest)
          return (item :: items, after)
      | .char ']' :: rest => return ([item], rest)
      | _ => .error .malformed

/-- Entries up to the closing brace. Names must be strings, and may repeat. -/
def readEntries (depth : Nat) :
    Nat → List CodePoint → Except Fault (List (Value × Value) × List CodePoint)
  | 0, _ => .error .malformed
  | fuel + 1, text =>
      match text with
      | .char '"' :: rest => do
          let (key, after) ← orMalformed (readString? (rest.length + 1) rest)
          match skipSpace after with
          | .char ':' :: rest => do
              let (value, after) ← readValue depth fuel (skipSpace rest)
              let entry := (Value.text (.ofList key), value)
              match skipSpace after with
              | .char ',' :: rest => do
                  let (entries, after) ← readEntries depth fuel (skipSpace rest)
                  return (entry :: entries, after)
              | .char '\x7d' :: rest => return ([entry], rest)
              | _ => .error .malformed
          | _ => .error .malformed
      | _ => .error .malformed

end

/-- The value of a JSON text, with blanks around it and nothing else. There is fuel for two steps at
each code point, which no text needs more of. -/
def read (text : List CodePoint) : Except Fault Value := do
  let (value, after) ← readValue depthLimit (2 * text.length + 2) (skipSpace text)
  if (skipSpace after).isEmpty then return value else .error .malformed

end FacetSearch.Json
