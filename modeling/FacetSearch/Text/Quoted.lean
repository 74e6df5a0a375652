import FacetSearch.Text.CodePoint
import FacetSearch.Text.Hexadecimal
import FacetSearch.Text.Printable

/-!
# `FacetSearch.Text.Quoted`: strings in quotes

Three ways to write a string. JSON quoting escapes the quote, the backslash and the control
characters and leaves every other code point as it is, lone surrogates too, and this is also how a
string literal of a query is written. ASCII quoting in addition writes every character past the
tilde by the UTF-16 units of its code point, and a surrogate by itself: a high and a low surrogate
side by side are then written as the character that they spell. Shown quoting, for values inside
messages, chooses between two quote marks and escapes what is not printable, which a surrogate never
is.

The escapes of characters are characters; what is quoted is a text of code points.
-/

set_option autoImplicit false

namespace FacetSearch

/-- A UTF-16 unit as an escape, of four hexadecimal digits in lower case. -/
def unitEscape (unit : Nat) : List Char := '\\' :: 'u' :: hexDigits 4 unit

/-- A character inside JSON quotes. Only what must be escaped is; all other characters stand for
themselves. -/
def jsonEscape (c : Char) : List Char :=
  if c = '"' then ['\\', '"']
  else if c = '\\' then ['\\', '\\']
  else if c = '\n' then ['\\', 'n']
  else if c = '\r' then ['\\', 'r']
  else if c = '\t' then ['\\', 't']
  else if c.toNat = 8 then ['\\', 'b']
  else if c.toNat = 12 then ['\\', 'f']
  else if c.toNat < 32 then unitEscape c.toNat
  else [c]

/-- A code point inside JSON quotes. A surrogate stands for itself, which leaves it to the encoding
to refuse it. -/
def jsonPoint : CodePoint → List CodePoint
  | .char c => (jsonEscape c).map .char
  | .surrogate offset => [.surrogate offset]

/-- A string in JSON quotes. Query literals and bodies of requests are written so. -/
def jsonQuoted (text : List CodePoint) : List CodePoint :=
  .char '"' :: (text.flatMap jsonPoint ++ [.char '"'])

/-- A character inside ASCII quotes. Past the basic plane it takes a surrogate pair. The last ASCII
character is escaped like those past it. -/
def asciiEscape (c : Char) : List Char :=
  if c.toNat ≤ 126 then jsonEscape c
  else if c.toNat < 65536 then unitEscape c.toNat
  else
    unitEscape (55296 + (c.toNat - 65536) / 1024) ++ unitEscape (56320 + (c.toNat - 65536) % 1024)

/-- A code point inside ASCII quotes. A surrogate is the unit that it is, so a pair of them is
written as the character that it spells. -/
def asciiPoint : CodePoint → List CodePoint
  | .char c => (asciiEscape c).map .char
  | .surrogate offset => (unitEscape (55296 + offset.val)).map .char

/-- A string in ASCII quotes. Canonical texts are written so. -/
def asciiQuoted (text : List CodePoint) : List CodePoint :=
  .char '"' :: (text.flatMap asciiPoint ++ [.char '"'])

/-- The quote mark of a shown string: the apostrophe, unless the string holds one and no double
quote. -/
def shownMark (text : List CodePoint) : Char :=
  if text.contains (.char '\'') && !text.contains (.char '"') then '"' else '\''

/-- A character inside shown quotes. What is not printable is written by its number, with as few
digits as are enough for it. -/
def shownEscape (mark c : Char) : List Char :=
  if c = mark ∨ c = '\\' then ['\\', c]
  else if c = '\n' then ['\\', 'n']
  else if c = '\r' then ['\\', 'r']
  else if c = '\t' then ['\\', 't']
  else if isPrintable c then [c]
  else if c.toNat < 256 then '\\' :: 'x' :: hexDigits 2 c.toNat
  else if c.toNat < 65536 then unitEscape c.toNat
  else '\\' :: 'U' :: hexDigits 8 c.toNat

/-- A code point inside shown quotes. A surrogate is escaped by its number. -/
def shownPoint (mark : Char) : CodePoint → List Char
  | .char c => shownEscape mark c
  | .surrogate offset => unitEscape (55296 + offset.val)

/-- A string as it is shown inside a value, between two marks of one kind. -/
def shownQuoted (text : List CodePoint) : List Char :=
  let mark := shownMark text
  mark :: (text.flatMap (shownPoint mark) ++ [mark])

/-- A byte inside shown quotes. Past ASCII every byte is escaped, whatever character it may belong
to. -/
def shownByte (mark : Char) (byte : UInt8) : List Char :=
  let c := Char.ofNat byte.toNat
  if c = mark ∨ c = '\\' then ['\\', c]
  else if c = '\n' then ['\\', 'n']
  else if c = '\r' then ['\\', 'r']
  else if c = '\t' then ['\\', 't']
  else if 32 ≤ byte.toNat ∧ byte.toNat < 127 then [c]
  else '\\' :: 'x' :: hexDigits 2 byte.toNat

/-- A byte string as it is shown. -/
def shownBytes (bytes : List UInt8) : List Char :=
  let mark := shownMark (bytes.map fun byte => .char (Char.ofNat byte.toNat))
  'b' :: mark :: (bytes.flatMap (shownByte mark) ++ [mark])

end FacetSearch
