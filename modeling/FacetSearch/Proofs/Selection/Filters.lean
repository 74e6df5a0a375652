import FacetSearch.Proofs.Expr.Distinct
import FacetSearch.Proofs.Facets.Aliases
import FacetSearch.Proofs.Selection.Expressible

/-!
# `FacetSearch.Proofs.Selection.Filters`: a selection with filters asks for something

Whether a selection has filters is decided in one place, and the predicates it gives are built in
another. The two agree: there are filters exactly when there are conditions
(`conditions_eq_nil_iff`). The where expression of a selection without conditions is the one that
every profile meets (`toExpr_eq_everything_iff`), and no other expression has the empty where
mapping (`Expr.toWhere_eq_empty_iff`). So a where mapping is empty exactly when nothing was asked
for.
-/

set_option autoImplicit false

namespace FacetSearch

namespace Expr

/-- The expression that every profile meets is the only one with the empty where mapping. A
predicate and a conjunction have an entry each. -/
theorem toWhere_eq_empty_iff (e : Expr) : e.toWhere = .map [] ↔ e = .everything := by
  cases e with
  | field path operator value =>
      obtain ⟨entry, hentry⟩ := exists_toWhere_field path operator value
      simp [hentry]
  | all first second rest => simp [toWhere]
  | everything => simp [toWhere]

/-- Expressions that are joined are met by every profile only if there are none, or one that is. The
cases are those of the joining. -/
theorem ofList_eq_everything_iff {es : List Expr} (h : Expr.everything ∉ es) :
    ofList es = .everything ↔ es = [] := by
  match es with
  | [] => simp [ofList]
  | [e] =>
      rw [List.mem_singleton] at h
      simp [ofList, Ne.symm h]
  | first :: second :: rest => simp [ofList]

end Expr

namespace Selection

/-- A dimension has no predicate exactly when nothing is chosen in it, be the field missing or the
list empty. -/
theorem dimensionCondition?_eq_none_iff (s : Selection) (d : Dimension) :
    s.dimensionCondition? d = none ↔ s.values d = [] := by
  unfold dimensionCondition?
  simp

/-- There are no filters exactly when nothing is searched for and nothing is chosen anywhere. -/
theorem hasFilters_eq_false_iff (s : Selection) :
    s.hasFilters = false ↔ s.normalizedSearch = none ∧ ∀ d, s.values d = [] := by
  unfold hasFilters
  rw [Bool.or_eq_false_iff, List.any_eq_false]
  constructor
  · rintro ⟨hsearch, hchosen⟩
    refine ⟨by simpa using hsearch, fun d => ?_⟩
    simpa using hchosen d d.mem_all
  · rintro ⟨hsearch, hchosen⟩
    refine ⟨by simp [hsearch], fun d _ => ?_⟩
    simp [hchosen d]

/-- **Filters and conditions agree.** A selection has no conditions exactly when it has no
filters. -/
theorem conditions_eq_nil_iff (s : Selection) : s.conditions = [] ↔ s.hasFilters = false := by
  rw [hasFilters_eq_false_iff]
  unfold conditions searchCondition?
  rw [List.append_eq_nil_iff, List.filterMap_eq_nil_iff, Option.toList_eq_nil_iff,
    Option.map_eq_none_iff, and_comm]
  -- The search agrees as it is; the predicates are compared dimension by dimension.
  refine and_congr_right fun _ => ⟨fun h d => ?_, fun h d _ => ?_⟩
  · exact (dimensionCondition?_eq_none_iff s d).mp (h d d.mem_all)
  · exact (dimensionCondition?_eq_none_iff s d).mpr (h d)

/-- No condition of a selection is the expression that every profile meets. -/
theorem everything_not_mem_conditions (s : Selection) : Expr.everything ∉ s.conditions := by
  intro hmem
  rcases cases_of_mem_conditions hmem with ⟨d, hd⟩ | ⟨search, -, hsearch⟩
  · unfold Dimension.isAmong at hd
    cases hd
  · cases hsearch

/-- The where expression of a selection is the one that every profile meets exactly when there are
no conditions. -/
theorem toExpr_eq_everything_iff (s : Selection) : s.toExpr = .everything ↔ s.conditions = [] :=
  Expr.ofList_eq_everything_iff s.everything_not_mem_conditions

end Selection

end FacetSearch
