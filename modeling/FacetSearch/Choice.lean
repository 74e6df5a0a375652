import FacetSearch.Text
import FacetSearch.Text.Blank

/-!
# `FacetSearch.Choice`: rows of the option tables

A choice is what a user can select in a dimension: an identifier and a name. A tag row also carries
the kind of the tag, which is a row itself. A row whose name is missing or blank is a placeholder,
and facets leave it out.
-/

set_option autoImplicit false

namespace FacetSearch

/-- A row of one of the option tables. Tags have a kind, which is a row again; where a kind is
declared any row is taken, so it may be a tag. -/
inductive Choice where
  | plain (id : Text) (name : Option Text)
  | tag (id : Text) (name : Option Text) (kind : Option Choice)

namespace Choice

/-- The identifier of a row. -/
def id : Choice → Text
  | .plain id _ => id
  | .tag id _ _ => id

/-- The name of a row. -/
def name : Choice → Option Text
  | .plain _ name => name
  | .tag _ name _ => name

/-- A row without a name to show: none at all, an empty one, or one of blanks. -/
def isPlaceholder (c : Choice) : Bool := (trimBlanks (c.name.getD "" : Text).toList).isEmpty

end Choice

end FacetSearch
