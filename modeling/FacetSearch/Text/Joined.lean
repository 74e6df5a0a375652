import FacetSearch.Text.CodePoint

/-!
# `FacetSearch.Text.Joined`: pieces with separators between them

Joining puts the separator between neighbouring pieces and nowhere else.
-/

set_option autoImplicit false

namespace FacetSearch

/-- Pieces with a separator between them, and none before the first or behind the last. -/
def joined {α : Type} (separator : List α) : List (List α) → List α
  | [] => []
  | [piece] => piece
  | piece :: next :: rest => piece ++ separator ++ joined separator (next :: rest)

/-- Pieces with a comma and a space between them. -/
def commaJoined (pieces : List (List CodePoint)) : List CodePoint :=
  joined [.char ',', .char ' '] pieces

end FacetSearch
