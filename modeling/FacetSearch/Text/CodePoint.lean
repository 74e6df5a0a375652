/-!
# `FacetSearch.Text.CodePoint`: characters and lone surrogates

A text is made of code points, and a code point need not be a character. The range from U+D800 to
U+DFFF holds the surrogates, two of which spell a character past the basic plane in UTF-16. JSON
escapes spell a surrogate also without its partner, and what reads them keeps it: it is a part of
the text like any other, is compared and passed on, and fails only where the text is encoded.

A character is no surrogate, so every number below `0x110000` is exactly one code point:
`CodePoint.toNat` tells code points apart, and `CodePoint.ofUnit` takes numbers back.
-/

set_option autoImplicit false

namespace FacetSearch

/-- A code point: a character, or a surrogate that stands alone. Surrogates are counted from the
first of them, so that there is no surrogate outside their range. -/
inductive CodePoint where
  | char (c : Char)
  | surrogate (offset : Fin 2048)
  deriving DecidableEq

namespace CodePoint

/-- A character is a code point. -/
instance : Coe Char CodePoint := ⟨.char⟩

/-- The number of a code point. Surrogates have the numbers that no character has. -/
def toNat : CodePoint → Nat
  | .char c => c.toNat
  | .surrogate offset => 55296 + offset.val

/-- A character, if the code point is one. -/
def char? : CodePoint → Option Char
  | .char c => some c
  | .surrogate _ => none

/-- Whether a code point is a character of a class. No class of characters holds a surrogate. -/
def satisfies (p : Char → Bool) : CodePoint → Bool
  | .char c => p c
  | .surrogate _ => false

/-- A code point in lower case, where ASCII has one. Names of headers are compared by it. -/
def toLower : CodePoint → CodePoint
  | .char c => .char c.toLower
  | .surrogate offset => .surrogate offset

/-- A high surrogate, the first of a pair. -/
def isHigh (unit : Nat) : Bool := decide (55296 ≤ unit) && decide (unit < 56320)

/-- A low surrogate, the second of a pair. -/
def isLow (unit : Nat) : Bool := decide (56320 ≤ unit) && decide (unit < 57344)

/-- The code point of a number, as a UTF-16 unit spells it on its own. A number past the last code
point stands for none and becomes the null character. -/
def ofUnit (unit : Nat) : CodePoint :=
  if h : 55296 ≤ unit ∧ unit < 57344 then .surrogate ⟨unit - 55296, by omega⟩
  else .char (Char.ofNat unit)

/-- The character of a pair of surrogates: ten bits of each, counted from the first character past
the basic plane. -/
def ofPair (high low : Nat) : CodePoint :=
  .char (Char.ofNat (65536 + (high - 55296) * 1024 + (low - 56320)))

/-- Characters have numbers up to a last one, which is below `2^21`. -/
theorem toNat_lt_of_char (c : Char) : c.toNat < 1114112 := by
  rcases c.valid with hlow | ⟨-, hhigh⟩
  · have hbound : c.toNat < 55296 := hlow
    omega
  · exact hhigh

/-- Characters are no surrogates: their numbers lie below or past the range. -/
theorem toNat_lt_or_lt_toNat (c : Char) : c.toNat < 55296 ∨ 57343 < c.toNat := by
  rcases c.valid with hlow | ⟨hhigh, -⟩
  · exact Or.inl hlow
  · exact Or.inr hhigh

/-- Code points of one number are one code point, since no surrogate has the number of a
character. -/
theorem toNat_inj {a b : CodePoint} (h : a.toNat = b.toNat) : a = b := by
  cases a with
  | char c =>
      cases b with
      | char d => exact congrArg _ (Char.toNat_inj.mp h)
      | surrogate offset =>
          have hc := toNat_lt_or_lt_toNat c
          have ho := offset.isLt
          simp only [toNat] at h
          omega
  | surrogate offset =>
      cases b with
      | char d =>
          have hd := toNat_lt_or_lt_toNat d
          have ho := offset.isLt
          simp only [toNat] at h
          omega
      | surrogate other =>
          simp only [toNat] at h
          exact congrArg _ (Fin.ext (by omega))

end CodePoint

end FacetSearch
