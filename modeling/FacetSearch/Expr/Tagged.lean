import FacetSearch.Value

/-!
# `FacetSearch.Expr.Tagged`: expressions as tagged mappings

An expression can be given as plain data: a mapping that names its kind first and then has the
fields of this kind. The conditions of a conjunction are such mappings again, and what a predicate
compares with stays as it is.
-/

set_option autoImplicit false

namespace FacetSearch.Expr

mutual

/-- The tagged mapping of an expression, which has all that the expression has, kinds and points of
paths included. -/
def tagged : Expr → Value
  | .field path operator value =>
      .ofFields [("kind", .text "field"), ("path", .text path), ("operator", .text operator),
        ("value", value)]
  | .all first second rest =>
      .ofFields [("kind", .text "and"),
        ("conditions", .list (tagged first :: tagged second :: taggedItems rest))]
  | .everything => .ofFields [("kind", .text "empty")]

/-- The tagged mappings of several expressions. -/
def taggedItems : List Expr → List Value
  | [] => []
  | e :: es => tagged e :: taggedItems es

end

/-- The tagged mappings of expressions, one by one. -/
theorem taggedItems_eq (es : List Expr) : taggedItems es = es.map tagged := by
  induction es with
  | nil => rfl
  | cons e es ih => rw [taggedItems, ih, List.map_cons]

end FacetSearch.Expr
