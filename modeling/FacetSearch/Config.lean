import FacetSearch.Entries
import FacetSearch.Number.Binary64

/-!
# `FacetSearch.Config`: where requests go and what they carry

The headers of a request are the API key, when there is one, under `x-api-key`, and the headers of
the configuration, which replace a header of the same spelling.
-/

set_option autoImplicit false

namespace FacetSearch

/-- Where requests go and what they carry. Names of headers are kept as they were given, and no name
stands twice among them once they are checked. -/
structure Config where
  endpoint : Text
  apiKey : Option Text := none
  headers : List (Text × Text) := []
  /-- In seconds. -/
  timeout : Binary64 := Binary64.ofInt 30

/-- The headers that every request carries: that of the key first, then those of the user, which
replace it under its exact name. An empty key is none. -/
def Config.requestHeaders (c : Config) : List (Text × Text) :=
  let key :=
    match c.apiKey with
    | some key => if key.isEmpty then [] else [("x-api-key", key)]
    | none => []
  Entries.putAll key c.headers

end FacetSearch
