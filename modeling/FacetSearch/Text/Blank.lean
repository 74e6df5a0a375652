import FacetSearch.Text.Class
import FacetSearch.Text.CodePoint

/-!
# `FacetSearch.Text.Blank`: blank characters and trimming

Two classes differ by four characters. White space is the Unicode property of that name, which
numbers may be surrounded by. A blank is white space or one of the four information separators
U+001C to U+001F; a search text is trimmed of blanks, and a name made of blanks alone counts as no
name. The zero-width characters are neither.
-/

set_option autoImplicit false

namespace FacetSearch

/-- The boundaries of the Unicode property `White_Space`: where it starts and ends, in turn. -/
def whiteSpaceBoundaries : List Nat :=
  [9, 14, 32, 33, 133, 134, 160, 161, 5760, 5761, 8192, 8203, 8232, 8234, 8239, 8240, 8287, 8288,
    12288, 12289]

/-- A character with the Unicode property `White_Space`. -/
def isWhiteSpace (c : Char) : Bool := flippedAt whiteSpaceBoundaries c.toNat

/-- White space, or one of the separators U+001C to U+001F. -/
def isBlank (c : Char) : Bool :=
  isWhiteSpace c || (decide (28 ≤ c.toNat) && decide (c.toNat ≤ 31))

/-- A code point that is a blank. A surrogate is none, so it ends the blanks around a text. -/
def CodePoint.isBlank (point : CodePoint) : Bool := point.satisfies FacetSearch.isBlank

/-- The text without what a class holds of its start and its end. What the class holds further
inside stays. -/
def trimBy {α : Type} (blank : α → Bool) (text : List α) : List α :=
  ((text.dropWhile blank).reverse.dropWhile blank).reverse

/-- The text without leading and trailing blanks. -/
def trimBlanks (text : List CodePoint) : List CodePoint := trimBy CodePoint.isBlank text

/-- The text without leading and trailing white space. -/
def trimWhiteSpace (text : List Char) : List Char := trimBy isWhiteSpace text

end FacetSearch
