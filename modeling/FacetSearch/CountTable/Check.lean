import FacetSearch.Checked

/-!
# `FacetSearch.CountTable.Check`: accepting count tables
-/

set_option autoImplicit false

namespace FacetSearch.CountTable

/-- Checks the fields of a count table, as it is when it is made by hand. Without fields everything
counts zero. -/
def check (given : Given) : Checked CountTable :=
  let counts (name : Text) := given.withDefault name [] (Value.checkMapping Value.checkInteger)
  ((counts "types").both <| (counts "sectors").both <| (counts "statuses").both <|
    (counts "tags").both (given.withDefault "total" 0 Value.checkInteger)).map
    fun (types, sectors, statuses, tags, total) => { types, sectors, statuses, tags, total }

end FacetSearch.CountTable
