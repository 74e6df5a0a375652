/-!
# `FacetSearch.Text.Class`: character classes by their boundaries

A class of characters is kept as the increasing list of code points at which membership flips,
starting outside. A code point belongs to the class when an odd number of boundaries lie at or
below it.
-/

set_option autoImplicit false

namespace FacetSearch

/-- Whether an odd number of the boundaries lie at or below the code point. The list increases, so
the count stops at the first boundary above. -/
def flippedAt : List Nat → Nat → Bool
  | [], _ => false
  | boundary :: rest, code => decide (boundary ≤ code) && !flippedAt rest code

end FacetSearch
