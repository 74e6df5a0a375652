import FacetSearch.Expr.Where
import FacetSearch.Selection

/-!
# `FacetSearch.Selection.Conditions`: the where expression of a selection

A selection gives one predicate for each dimension with chosen values, in the order of dimensions,
and one for the search, last. One dimension can be left out, as if nothing were chosen in it.
-/

set_option autoImplicit false

namespace FacetSearch

/-- The predicate that a profile has one of the values in a dimension. One value alone is a list as
well. -/
def Dimension.isAmong (d : Dimension) (values : List Value) : Expr :=
  .field d.fieldPath "_in" (.list values)

/-- The predicate that a profile has the value in a dimension, as the counting of one option
asks. -/
def Dimension.isEqual (d : Dimension) (value : Value) : Expr := .field d.fieldPath "_eq" value

namespace Selection

/-- The predicate of a dimension, if values are chosen in it. Without values there must be none, as
no profile has a value of the empty list. -/
def dimensionCondition? (s : Selection) (d : Dimension) : Option Expr :=
  let values := s.values d
  if values.isEmpty then none else some (d.isAmong values)

/-- The predicate of the search, if there is one. It asks for the trimmed text. -/
def searchCondition? (s : Selection) : Option Expr :=
  s.normalizedSearch.map fun search => .field "name" "_contains" (.text search)

/-- All predicates of a selection, in the order of dimensions, that of the search last. -/
def conditions (s : Selection) : List Expr :=
  Dimension.all.filterMap s.dimensionCondition? ++ s.searchCondition?.toList

/-- The selection without the choice in a dimension, if one is named. -/
def excluding (s : Selection) : Option Dimension → Selection
  | none => s
  | some d => s.without d

/-- The where expression of a selection: every profile meets it when there are no conditions. -/
def toExpr (s : Selection) : Expr := .ofList s.conditions

end Selection

end FacetSearch
