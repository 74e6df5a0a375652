import FacetSearch.Text.Split
import FacetSearch.Value

/-!
# `FacetSearch.Expr.Where`: where mappings

The service takes a where expression as nested mappings. A predicate on a dotted path nests one
mapping per step around `{operator: value}`; a conjunction is `{_and: [...]}` with its conditions in
order; the expression that every profile meets is the empty mapping.
-/

set_option autoImplicit false

namespace FacetSearch.Expr

/-- One mapping per step, the first step outermost, around a node. Each mapping has one entry, so
paths with a common start are not merged. -/
def nested (steps : List Text) (node : Value) : Value :=
  steps.foldr (fun step inner => .map [(.text step, inner)]) node

mutual

/-- The where mapping of an expression. It has no trace of the kinds: they are told from the entries
of the mapping. -/
def toWhere : Expr → Value
  | .field path operator value => nested (pathSteps path) (.map [(.text operator, value)])
  | .all first second rest =>
      .map [(.text "_and", .list (toWhere first :: toWhere second :: toWheres rest))]
  | .everything => .map []

/-- The where mappings of several expressions. -/
def toWheres : List Expr → List Value
  | [] => []
  | e :: es => toWhere e :: toWheres es

end

/-- The conjunction of any number of expressions: none is the expression that every profile meets,
and one alone stands for itself. -/
def ofList : List Expr → Expr
  | [] => .everything
  | [e] => e
  | first :: second :: rest => .all first second rest

end FacetSearch.Expr
