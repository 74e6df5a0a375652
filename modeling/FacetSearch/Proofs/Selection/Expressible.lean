import FacetSearch.Proofs.Literal.Meaning
import FacetSearch.Selection.Conditions

/-!
# `FacetSearch.Proofs.Selection.Expressible`: the where mappings of selections are expressible

Paths and operators are names, and nothing else stands in the where mapping of a selection but the
chosen values and the search. So a property that spreads to lists and to mappings under names
(`Value.Spreads`) holds of the mapping when it holds of the chosen values and of the search. To be
expressible is such a property (`Selection.isExpressible_toExpr`). Values that are texts always are.
-/

set_option autoImplicit false

namespace FacetSearch

open Grammar

/-- A value that is a text is expressible. -/
theorem Value.isExpressible_of_text? {v : Value} (h : v.text?.isSome) : v.IsExpressible := by
  cases v with
  | text content => exact .text content
  | dimension d => exact .dimension d
  | _ => cases h

/-! ### Chosen values and conditions -/

namespace Selection

/-- Leaving out a dimension empties it and keeps the others. Sixteen cases, each of which is decided
by the fields. -/
theorem values_without (s : Selection) (d e : Dimension) :
    (s.without d).values e = if e = d then [] else s.values e := by
  cases d <;> cases e <;> rfl

/-- Leaving out a dimension, if one is named, empties it and keeps the others. -/
theorem values_excluding (s : Selection) (excluded : Option Dimension) (d : Dimension) :
    (s.excluding excluded).values d = if excluded = some d then [] else s.values d := by
  cases excluded with
  | none => rfl
  | some e =>
      rw [excluding, values_without]
      by_cases h : d = e
      · rw [if_pos h, if_pos (by rw [h])]
      · rw [if_neg h, if_neg fun heq => h (Option.some.inj heq).symm]

/-- What is true of all chosen values stays true of them when a dimension is left out, as only
values are dropped. -/
theorem forall_values_excluding {s : Selection} {P : Value → Prop}
    (h : ∀ d, ∀ v ∈ s.values d, P v) (excluded : Option Dimension) :
    ∀ d, ∀ v ∈ (s.excluding excluded).values d, P v := by
  intro d v hv
  rw [values_excluding] at hv
  split at hv
  · cases hv
  · exact h d v hv

/-- The condition of a dimension is the membership predicate of the values chosen in it. -/
theorem eq_isAmong_of_dimensionCondition? {s : Selection} {d : Dimension} {e : Expr}
    (h : s.dimensionCondition? d = some e) : e = d.isAmong (s.values d) := by
  rw [dimensionCondition?] at h
  split at h
  · cases h
  · exact (Option.some.inj h).symm

/-- A condition of a selection is the membership predicate of a dimension or that of the search. So
facts about conditions need two cases. -/
theorem cases_of_mem_conditions {s : Selection} {e : Expr} (h : e ∈ s.conditions) :
    (∃ d, e = Dimension.isAmong d (s.values d)) ∨
      ∃ search, s.normalizedSearch = some search ∧
        e = .field "name" "_contains" (.text search) := by
  rw [conditions, List.mem_append, List.mem_filterMap, Option.mem_toList] at h
  rcases h with ⟨d, -, hd⟩ | hsearch
  · exact Or.inl ⟨d, eq_isAmong_of_dimensionCondition? hd⟩
  · obtain ⟨search, hnormalized, rfl⟩ := Option.map_eq_some_iff.mp hsearch
    exact Or.inr ⟨search, hnormalized, rfl⟩

end Selection

/-! ### What spreads from values to where mappings -/

/-- A property of values that spreads from what is in a list, or in a mapping under a name, to the
list or the mapping. -/
structure Value.Spreads (P : Value → Prop) : Prop where
  list : ∀ {items : List Value}, (∀ v ∈ items, P v) → P (.list items)
  empty : P (.map [])
  single : ∀ {name : Text} {value : Value}, isName name = true → P value →
    P (.map [(.text name, value)])

/-- The path of a dimension is made of names. -/
theorem Dimension.all_isName_pathSteps (d : Dimension) :
    (pathSteps d.fieldPath).all isName = true := by
  cases d <;> decide

namespace Value.Spreads

variable {P : Value → Prop}

/-- Steps that are names spread a property to the mapping around a value. By induction on the steps,
from the innermost mapping out. -/
theorem nested (h : Spreads P) {steps : List Text} (hsteps : steps.all isName = true)
    {node : Value} (hnode : P node) : P (Expr.nested steps node) := by
  induction steps with
  | nil => exact hnode
  | cons step rest ih =>
      rw [List.all_cons, Bool.and_eq_true] at hsteps
      exact h.single hsteps.1 (ih hsteps.2)

/-- The where mapping of a predicate has a property of its value when its path is made of names and
its operator is one. -/
theorem field (h : Spreads P) {path operator : Text} {value : Value}
    (hpath : (pathSteps path).all isName = true) (hoperator : isName operator = true)
    (hvalue : P value) : P (Expr.field path operator value).toWhere := by
  rw [Expr.toWhere]
  exact h.nested hpath (h.single hoperator hvalue)

/-- The where mapping of conditions that are joined has a property when that of each of them has it.
The cases are those of the joining: none, one and more. -/
theorem ofList (h : Spreads P) {es : List Expr} (hall : ∀ e ∈ es, P e.toWhere) :
    P (Expr.ofList es).toWhere := by
  match es with
  | [] => exact h.empty
  | [e] => exact hall e List.mem_cons_self
  | first :: second :: rest =>
      rw [Expr.ofList, Expr.toWhere, Expr.toWheres_eq]
      refine h.single (by decide) (h.list fun v hv => ?_)
      rw [← List.map_cons, ← List.map_cons] at hv
      obtain ⟨e, he, rfl⟩ := List.mem_map.mp hv
      exact hall e he

/-- The where mappings of the conditions of a selection have a property of the chosen values and of
the search. -/
theorem conditions (h : Spreads P) {s : Selection} (hvalues : ∀ d, ∀ v ∈ s.values d, P v)
    (hsearch : ∀ search, s.normalizedSearch = some search → P (.text search)) :
    ∀ e ∈ s.conditions, P e.toWhere := by
  intro e he
  rcases Selection.cases_of_mem_conditions he with ⟨d, rfl⟩ | ⟨search, hnormalized, rfl⟩
  · exact h.field d.all_isName_pathSteps (by decide) (h.list (hvalues d))
  · exact h.field (by decide) (by decide) (hsearch search hnormalized)

/-- The where mapping of a selection has a property of the chosen values and of the search. This is
used for being expressible and for being JSON without surrogates. -/
theorem toExpr (h : Spreads P) {s : Selection} (hvalues : ∀ d, ∀ v ∈ s.values d, P v)
    (hsearch : ∀ search, s.normalizedSearch = some search → P (.text search)) :
    P s.toExpr.toWhere := h.ofList (h.conditions hvalues hsearch)

end Value.Spreads

/-! ### Expressible values -/

/-- Being expressible spreads. -/
theorem Value.spreads_isExpressible : Spreads IsExpressible where
  list h := .list h
  empty := .map (fun _ hentry => by cases hentry) fun _ hentry => by cases hentry
  single {name} {value} hname hvalue := by
    refine .map (fun entry hentry => ?_) fun entry hentry => ?_
    · rw [List.mem_singleton.mp hentry]
      exact ⟨name, rfl, hname⟩
    · rw [List.mem_singleton.mp hentry]
      exact hvalue

/-- The where mapping of conditions that are joined is expressible when that of each of them is. -/
theorem Expr.isExpressible_ofList {es : List Expr} (h : ∀ e ∈ es, e.toWhere.IsExpressible) :
    (ofList es).toWhere.IsExpressible := Value.spreads_isExpressible.ofList h

/-- The equality predicate of an expressible value is expressible. -/
theorem Dimension.isExpressible_isEqual (d : Dimension) {value : Value}
    (h : value.IsExpressible) : (d.isEqual value).toWhere.IsExpressible :=
  Value.spreads_isExpressible.field d.all_isName_pathSteps (by decide) h

/-- The conditions of a selection of expressible values are expressible. -/
theorem Selection.isExpressible_conditions {s : Selection}
    (h : ∀ d, ∀ v ∈ s.values d, v.IsExpressible) :
    ∀ e ∈ s.conditions, e.toWhere.IsExpressible :=
  Value.spreads_isExpressible.conditions h fun search _ => .text search

/-- The where mapping of a selection of expressible values is expressible. -/
theorem Selection.isExpressible_toExpr {s : Selection}
    (h : ∀ d, ∀ v ∈ s.values d, v.IsExpressible) :
    s.toExpr.toWhere.IsExpressible :=
  Value.spreads_isExpressible.toExpr h fun search _ => .text search

end FacetSearch
