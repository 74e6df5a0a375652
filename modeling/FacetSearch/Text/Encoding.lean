import FacetSearch.Text.CodePoint

/-!
# `FacetSearch.Text.Encoding`: the text of a JSON body

JSON may come in UTF-8, UTF-16 or UTF-32, in either order of bytes. A byte order mark tells which,
and is skipped. Without one the first character is ASCII, so the zeros among the first four bytes
tell. A surrogate that stands alone is kept as one.

A body is a sequence of bytes (`pointsOfBytes?`). Most bodies are held as text in UTF-8; one in
another encoding then appears as a text whose bytes are read again (`bodyPoints?`).
-/

set_option autoImplicit false

namespace FacetSearch

/-- An encoding of text: the bytes of a unit, and whether the high byte comes first. -/
inductive Encoding where
  | utf8
  | utf16 (highFirst : Bool)
  | utf32 (highFirst : Bool)
  deriving DecidableEq

/-- The encoding of a JSON body, from its first bytes. JSON starts with ASCII, so the zeros among
them tell the width and the order. -/
def Encoding.detect : List UInt8 → Encoding
  | a :: b :: c :: d :: _ =>
      if a = 0 then (if b = 0 then .utf32 true else .utf16 true)
      else if b = 0 then (if c = 0 ∧ d = 0 then .utf32 false else .utf16 false)
      else .utf8
  | [a, b] => if a = 0 then .utf16 true else if b = 0 then .utf16 false else .utf8
  | _ => .utf8

/-- Bytes in pairs as units. A byte left over makes the body unreadable. -/
def units16? (highFirst : Bool) : List UInt8 → Option (List Nat)
  | [] => some []
  | [_] => none
  | a :: b :: rest =>
      let unit := if highFirst then a.toNat * 256 + b.toNat else b.toNat * 256 + a.toNat
      (units16? highFirst rest).map (unit :: ·)

/-- Bytes in fours as units, made of pairs of halves. -/
def units32? (highFirst : Bool) (bytes : List UInt8) : Option (List Nat) := do
  let halves ← units16? highFirst bytes
  let rec go : List Nat → Option (List Nat)
    | [] => some []
    | [_] => none
    | a :: b :: rest =>
        (go rest).map ((if highFirst then a * 65536 + b else b * 65536 + a) :: ·)
  go halves

/-- The code points of UTF-16 units. A lone surrogate is kept, as the reader of bodies lets it
pass. -/
def pointsOfUnits16 : List Nat → List CodePoint
  | [] => []
  | [a] => [.ofUnit a]
  | a :: b :: rest =>
      if CodePoint.isHigh a && CodePoint.isLow b then .ofPair a b :: pointsOfUnits16 rest
      else .ofUnit a :: pointsOfUnits16 (b :: rest)

/-- The code points of UTF-32 units, none of which may lie past the last one. -/
def pointsOfUnits32? (units : List Nat) : Option (List CodePoint) :=
  if units.all fun unit => decide (unit < 1114112) then some (units.map .ofUnit) else none

/-- The bits that a byte adds to a character that started before it, if it is such a byte. -/
def continued? (byte : UInt8) : Option Nat :=
  if 128 ≤ byte.toNat ∧ byte.toNat < 192 then some (byte.toNat - 128) else none

/-- The number that so many bytes are, after the bits of another number. -/
def readContinued? : Nat → Nat → List UInt8 → Option (Nat × List UInt8)
  | 0, number, rest => some (number, rest)
  | _ + 1, _, [] => none
  | count + 1, number, byte :: rest =>
      (continued? byte).bind fun bits => readContinued? count (number * 64 + bits) rest

/-- What the first byte of a character past ASCII tells: how many bytes follow it, its own bits, and
the least number that needs so many bytes. -/
def leading? (byte : Nat) : Option (Nat × Nat × Nat) :=
  if 192 ≤ byte ∧ byte < 224 then some (1, byte - 192, 128)
  else if 224 ≤ byte ∧ byte < 240 then some (2, byte - 224, 2048)
  else if 240 ≤ byte ∧ byte < 248 then some (3, byte - 240, 65536)
  else none

/-- The first code point of a text in UTF-8, and what follows. A surrogate is taken for one, but a
number in more bytes than it needs is refused. -/
def utf8Point? : List UInt8 → Option (CodePoint × List UInt8)
  | [] => none
  | byte :: rest =>
      if byte.toNat < 128 then some (.ofUnit byte.toNat, rest)
      else do
        let (count, bits, least) ← leading? byte.toNat
        let (number, after) ← readContinued? count bits rest
        if least ≤ number ∧ number < 1114112 then some (.ofUnit number, after) else none

/-- The code points of bytes in UTF-8, of which there are at most so many. -/
def pointsOfUtf8? : Nat → List UInt8 → Option (List CodePoint)
  | _, [] => some []
  | 0, _ :: _ => none
  | limit + 1, bytes => do
      let (point, rest) ← utf8Point? bytes
      (pointsOfUtf8? limit rest).map (point :: ·)

/-- The encoding of a JSON body, from its byte order mark or its first bytes, and the bytes after
the mark. -/
def Encoding.ofBytes : List UInt8 → Encoding × List UInt8
  | 0 :: 0 :: 254 :: 255 :: rest => (.utf32 true, rest)
  | 255 :: 254 :: 0 :: 0 :: rest => (.utf32 false, rest)
  | 254 :: 255 :: rest => (.utf16 true, rest)
  | 255 :: 254 :: rest => (.utf16 false, rest)
  | 239 :: 187 :: 191 :: rest => (.utf8, rest)
  | bytes => (detect bytes, bytes)

/-- The code points of the bytes of a JSON body, with a mark at the start taken off. -/
def pointsOfBytes? (body : List UInt8) : Option (List CodePoint) :=
  match Encoding.ofBytes body with
  | (.utf8, bytes) => pointsOfUtf8? bytes.length bytes
  | (.utf16 highFirst, bytes) => (units16? highFirst bytes).map pointsOfUnits16
  | (.utf32 highFirst, bytes) => (units32? highFirst bytes).bind pointsOfUnits32?

/-- The code points of a JSON body that is held as text. Its bytes tell the encoding, even where the
text itself was meant. -/
def bodyPoints? (body : String) : Option (List CodePoint) :=
  let bytes := body.toUTF8.toList
  match Encoding.detect bytes with
  | .utf8 =>
      let text := body.toList
      some ((if text.head? = some (Char.ofNat 65279) then text.drop 1 else text).map .char)
  | .utf16 highFirst => (units16? highFirst bytes).map pointsOfUnits16
  | .utf32 highFirst => (units32? highFirst bytes).bind pointsOfUnits32?

end FacetSearch
