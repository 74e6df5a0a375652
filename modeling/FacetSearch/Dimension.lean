import FacetSearch.Number.Whole
import FacetSearch.Text

/-!
# `FacetSearch.Dimension`: the four filterable axes

Profiles are filtered along four dimensions, always taken in one order. A dimension has a name, the
stem of the aliases of its facet fields, and the path of the profile field that it constrains; tags
are reached through the join relation, so their path has two parts.
-/

set_option autoImplicit false

namespace FacetSearch

/-- A filterable axis. The four have different values in the tables below, and everything else in
the library is the same for all of them. -/
inductive Dimension where
  | types
  | sectors
  | statuses
  | tags
  deriving DecidableEq, Repr

namespace Dimension

/-- All dimensions in the order of predicates and aliases. -/
def all : List Dimension := [.types, .sectors, .statuses, .tags]

/-- The name under which a dimension occurs in selections and count tables. -/
def text : Dimension → String
  | .types => "types"
  | .sectors => "sectors"
  | .statuses => "statuses"
  | .tags => "tags"

/-- The name of the enumeration member, which is shown in messages. -/
def memberName : Dimension → String
  | .types => "TYPES"
  | .sectors => "SECTORS"
  | .statuses => "STATUSES"
  | .tags => "TAGS"

/-- The stem of the aliases of a dimension. No stem starts another, so an alias tells its
dimension. -/
def aliasStem : Dimension → String
  | .types => "type"
  | .sectors => "sector"
  | .statuses => "status"
  | .tags => "tag"

/-- The dotted path of the profile field that a dimension constrains. -/
def fieldPath : Dimension → String
  | .types => "profileTypeId"
  | .sectors => "profileSectorId"
  | .statuses => "profileStatusId"
  | .tags => "profileTags.tagId"

/-- The alias of an option, by what numbers it within its dimension, behind the stem and a mark that
no number has. -/
def aliasWith (d : Dimension) (suffix : Text) : Text :=
  Text.ofString (d.aliasStem ++ "_") ++ suffix

/-- The alias of the option at a position. -/
def aliasAt (d : Dimension) (index : Nat) : Text := d.aliasWith (.ofChars (naturalText index))

/-- The dimension of a name, by the exact text. Names of members are no names of dimensions. -/
def ofText? (name : Text) : Option Dimension := all.find? fun d => Text.ofString d.text == name

end Dimension

end FacetSearch
