import FacetSearch.Dimension

/-!
# `FacetSearch.CountTable`: facet counts

For each dimension the number of profiles by option id, and the number of all profiles.
-/

set_option autoImplicit false

namespace FacetSearch

/-- Facet counts by option id for each dimension, and the total. Ids come in the order of first
appearance among the options. -/
structure CountTable where
  types : List (Text × Int) := []
  sectors : List (Text × Int) := []
  statuses : List (Text × Int) := []
  tags : List (Text × Int) := []
  total : Int := 0

/-- The counts of a dimension. -/
def CountTable.counts (t : CountTable) : Dimension → List (Text × Int)
  | .types => t.types
  | .sectors => t.sectors
  | .statuses => t.statuses
  | .tags => t.tags

end FacetSearch
