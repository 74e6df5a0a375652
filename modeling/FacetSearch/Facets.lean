import FacetSearch.Catalog
import FacetSearch.Literal.OfValue
import FacetSearch.Selection.Conditions

/-!
# `FacetSearch.Facets`: facet counts in one query

A facet query asks for one count per option, each under its own alias, and for the total. The count
of an option is taken over the profiles that meet the selection in every other dimension and have
the option in its own, so what is chosen in a dimension never suppresses the siblings of the choice.
Placeholder options are left out, and the aliases number the options that remain.
-/

set_option autoImplicit false

namespace FacetSearch

/-- The options that a query counts, per dimension. A query keeps them, so it is decoded by what it
was built from. -/
abbrev FacetOptions : Type := Dimension → List Choice

/-- The options of a catalog that have a name, in the order of the catalog. A row without one has
nothing to show beside a count, so it is not counted. -/
def Catalog.facetOptions (c : Catalog) : FacetOptions := fun d =>
  (c.options d).filter fun row => !row.isPlaceholder

/-- The alias of the total, which no option can have: those of options end in a number. -/
def totalAlias : Text := "total"

/-- How a facet query names its parts, with the names of the service for the defaults. They are
written as they are. -/
structure FacetNames where
  aggregateField : Text := "profileInfosAggregate"
  operationName : Text := "GetProfileFacetCounts"

/-- A facet query: its text, its aliases in order, and the options that it was built from. -/
structure FacetQuery where
  text : Text
  aliases : List Text
  options : FacetOptions

namespace FacetQuery

/-- The where expression of an option: the selection in every other dimension, and the option. What
is chosen in its own dimension is left out, since an option is counted as the one to choose next. -/
def optionExpr (s : Selection) (d : Dimension) (row : Choice) : Expr :=
  .ofList ((s.without d).conditions ++ [d.isEqual (.text row.id)])

/-- The aliased expressions of a dimension. Options are numbered by their positions, so options with
one id still have two aliases. -/
def dimensionFields (s : Selection) (options : FacetOptions) (d : Dimension) :
    List (Text × Expr) :=
  (options d).mapIdx fun position row => (d.aliasAt position, optionExpr s d row)

/-- All aliased expressions, the total last. The total keeps every choice of the selection. -/
def fields (s : Selection) (options : FacetOptions) : List (Text × Expr) :=
  Dimension.all.flatMap (dimensionFields s options) ++ [(totalAlias, s.toExpr)]

/-- The line of one aliased expression, in which the where clause stands as literal text: one
document cannot bind one variable for each alias. -/
def line (names : FacetNames) (field : Text × Expr) : Text :=
  "  " ++ field.1 ++ ": " ++ names.aggregateField ++ "(filter_input: \x7b where: " ++
    field.2.whereText ++ " \x7d) \x7b _count \x7d"

/-- The text of a query: a heading, one line per field, and the closing brace. The lines are in the
order of the aliases. -/
def document (names : FacetNames) (fields : List (Text × Expr)) : Text :=
  joinedText "\n"
    ((("query " ++ names.operationName ++ " \x7b") :: fields.map (line names)) ++ [("\x7d" : Text)])

/-- The facet query of a selection over given options. The text and the aliases are made from one
list of fields, so they cannot drift. -/
def ofOptions (names : FacetNames) (s : Selection) (options : FacetOptions) : FacetQuery where
  text := document names (fields s options)
  aliases := (fields s options).map (·.1)
  options := options

/-- The facet query of a selection over a catalog. The total holds every condition of the
selection, so all lines can be written when it can. -/
def compile (names : FacetNames) (s : Selection) (c : Catalog) : Except Failure FacetQuery :=
  if s.toExpr.isWritable then .ok (ofOptions names s c.facetOptions) else .error .unsupported

end FacetQuery

end FacetSearch
