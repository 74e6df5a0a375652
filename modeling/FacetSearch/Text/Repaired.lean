/-!
# `FacetSearch.Text.Repaired`: bytes made into UTF-8

Bytes that are no UTF-8 are repaired by the replacement character: every longest start of a
character that breaks off, and every byte that starts none, becomes one.
-/

set_option autoImplicit false

namespace FacetSearch

/-- The bytes of the replacement character. -/
def replacementBytes : List UInt8 := [239, 191, 189]

/-- The ranges of the bytes that follow a first byte of a character, if it is one. -/
def followRanges? (byte : UInt8) : Option (List (Nat × Nat)) :=
  let n := byte.toNat
  if n < 128 then some []
  else if n < 194 then none
  else if n < 224 then some [(128, 191)]
  else if n = 224 then some [(160, 191), (128, 191)]
  else if n = 237 then some [(128, 159), (128, 191)]
  else if n < 240 then some [(128, 191), (128, 191)]
  else if n = 240 then some [(144, 191), (128, 191), (128, 191)]
  else if n < 244 then some [(128, 191), (128, 191), (128, 191)]
  else if n = 244 then some [(128, 143), (128, 191), (128, 191)]
  else none

/-- What is read of a character, and the ranges of its bytes to come. -/
structure Unfinished where
  bytes : List UInt8 := []
  ranges : List (Nat × Nat) := []

/-- A byte at the start of a character: the bytes that are complete, and what is read. -/
def startCharacter (byte : UInt8) : List UInt8 × Unfinished :=
  match followRanges? byte with
  | none => (replacementBytes, {})
  | some [] => ([byte], {})
  | some ranges => ([], ⟨[byte], ranges⟩)

/-- One byte more: the bytes that are complete, and what is read. -/
def Unfinished.read (p : Unfinished) (byte : UInt8) : List UInt8 × Unfinished :=
  match p.ranges with
  | [] => startCharacter byte
  | (low, high) :: ranges =>
      if low ≤ byte.toNat ∧ byte.toNat ≤ high then
        if ranges.isEmpty then (p.bytes ++ [byte], {}) else ([], ⟨p.bytes ++ [byte], ranges⟩)
      else
        let (complete, next) := startCharacter byte
        (replacementBytes ++ complete, next)

/-- Bytes as UTF-8, after what is read of a character. -/
def repairedFrom (p : Unfinished) : List UInt8 → List UInt8
  | [] => if p.bytes.isEmpty then [] else replacementBytes
  | byte :: rest => (p.read byte).1 ++ repairedFrom (p.read byte).2 rest

/-- Bytes as UTF-8. -/
def repairedUtf8 (bytes : List UInt8) : List UInt8 := repairedFrom {} bytes

end FacetSearch
