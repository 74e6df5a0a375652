import FacetSearch.Facets

/-!
# `FacetSearch.Proofs.Facets.Writable`: when a query can be written

A query is refused when a value of the selection has no literal. `isWritable_toExpr` reduces this to
the chosen values, one by one: paths, operators and the search are always writable. So a selection
of texts always compiles (`compile_of_writable`).
-/

set_option autoImplicit false

namespace FacetSearch

open Value

/-- Items can be written when each of them can. The recursion of the definition goes through the
list by itself; this gives it the form of `List.all`. -/
theorem Value.areWritable_eq (inRecord : Bool) (items : List Value) :
    areWritable inRecord items = items.all (isWritableIn inRecord) := by
  induction items with
  | nil => rfl
  | cons x xs ih => rw [areWritable, ih, List.all_cons]

/-- Entries can be written when the value of each of them can. -/
theorem Value.areEntriesWritable_eq (inRecord : Bool) (entries : List (Value × Value)) :
    areEntriesWritable inRecord entries
      = entries.all fun entry => isWritableIn inRecord entry.2 := by
  induction entries with
  | nil => rfl
  | cons entry rest ih => rw [areEntriesWritable, ih, List.all_cons]

namespace Expr

/-- Steps of a path add nothing that could not be written, by induction on the steps. -/
theorem isWritableIn_nested (inRecord : Bool) (steps : List Text) (node : Value) :
    isWritableIn inRecord (nested steps node) = isWritableIn inRecord node := by
  induction steps with
  | nil => rfl
  | cons step rest ih =>
      show isWritableIn inRecord (.map [(.text step, nested rest node)]) = _
      rw [isWritableIn, areEntriesWritable, areEntriesWritable, ih, Bool.and_true]

/-- A predicate can be written when its value can: its path and its operator are names. -/
theorem isWritable_field (path operator : Text) (value : Value) :
    (Expr.field path operator value).isWritable = value.isWritable := by
  rw [isWritable, toWhere, Value.isWritable, isWritableIn_nested, isWritableIn, areEntriesWritable,
    areEntriesWritable, Bool.and_true]
  rfl

/-- The where mappings of several expressions, one by one. -/
theorem toWheres_eq (es : List Expr) : toWheres es = es.map toWhere := by
  induction es with
  | nil => rfl
  | cons e es ih => rw [toWheres, ih, List.map_cons]

/-- Conditions that are joined can be written when each of them can. The cases are those of the
joining itself: of none, of one and of more. -/
theorem isWritable_ofList (es : List Expr) : (ofList es).isWritable = es.all isWritable := by
  match es with
  | [] => rfl
  | [e] => rw [ofList, List.all_cons, List.all_nil, Bool.and_true]
  | first :: second :: rest =>
      rw [ofList, isWritable, toWhere, toWheres_eq, Value.isWritable, isWritableIn,
        areEntriesWritable, areEntriesWritable, Bool.and_true, isWritableIn, areWritable_eq,
        ← List.map_cons, ← List.map_cons, List.all_map]
      rfl

end Expr

namespace Selection

/-- The predicates of dimensions can be written when the values chosen in them can. A dimension
without a choice gives no predicate, and none is needed. -/
theorem isWritable_dimensionConditions (s : Selection) (ds : List Dimension) :
    (ds.filterMap s.dimensionCondition?).all Expr.isWritable
      = ds.all fun d => (s.values d).all Value.isWritable := by
  induction ds with
  | nil => rfl
  | cons d ds ih =>
      rw [List.filterMap_cons, List.all_cons, ← ih, dimensionCondition?]
      -- With nothing chosen there is no predicate; otherwise the predicate holds the chosen list.
      cases hvalues : s.values d with
      | nil => rfl
      | cons v vs =>
          show ((d.isAmong (v :: vs)).isWritable && _) = _
          rw [Dimension.isAmong, Expr.isWritable_field, Value.isWritable, isWritableIn,
            areWritable_eq]
          rfl

/-- A selection can be written when its chosen values can. The search is a text, so it never stands
in the way. -/
theorem isWritable_toExpr (s : Selection) :
    s.toExpr.isWritable = Dimension.all.all fun d => (s.values d).all Value.isWritable := by
  have hsearch : s.searchCondition?.toList.all Expr.isWritable = true := by
    rw [searchCondition?]
    cases s.normalizedSearch with
    | none => rfl
    | some search =>
        show ((Expr.field "name" "_contains" (.text search)).isWritable && true) = true
        rw [Expr.isWritable_field]
        rfl
  rw [toExpr, Expr.isWritable_ofList, conditions, List.all_append, isWritable_dimensionConditions,
    hsearch, Bool.and_true]

end Selection

/-- The query of a selection of writable values, over any catalog. A compile has no other way to
fail than a value without a literal. -/
theorem FacetQuery.compile_of_writable (names : FacetNames) {s : Selection} (c : Catalog)
    (h : ∀ d, ∀ v ∈ s.values d, v.isWritable = true) :
    compile names s c = .ok (ofOptions names s c.facetOptions) := by
  have hwritable : s.toExpr.isWritable = true := by
    rw [Selection.isWritable_toExpr]
    exact List.all_eq_true.mpr fun d _ => List.all_eq_true.mpr (h d)
  rw [compile, if_pos hwritable]

/-- A text can be written. -/
theorem Value.isWritable_of_text? {v : Value} {content : Text} (h : v.text? = some content) :
    v.isWritable = true := by
  cases v with
  | text => rfl
  | dimension => rfl
  | _ => cases h

end FacetSearch
