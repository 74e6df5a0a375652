import FacetSearch.Proofs.Expr.Clause
import FacetSearch.Proofs.Selection.Expressible

/-!
# `FacetSearch.Proofs.Selection.Agreement`: which selections have the same clause

The active filters of a selection are the texts chosen in each dimension, with their order and
repetitions, and the trimmed search. Two selections agree off a dimension when their active filters
are equal but for that dimension. The main fact `whereText_eq_iff` compares the where clauses of two
selections that leave out one dimension, or none, and add the same conditions: the texts of the
clauses are equal if and only if the selections agree off what is left out.

In one direction the texts of the conditions are made of the active filters alone
(`map_whereText_conditions`). In the other the text is read back, and the filters are found in it:
the values of a dimension under its path (`chosenIn_conditions`) and the search under its own
(`searchedIn_conditions`).
-/

set_option autoImplicit false

namespace FacetSearch

open Grammar

/-- The steps to the text that the predicate of a search compares with. -/
def searchSteps : List Text := pathSteps "name" ++ [("_contains" : Text)]

namespace Dimension

/-- The steps to the values that a membership predicate compares with. -/
def amongSteps (d : Dimension) : List Text := pathSteps d.fieldPath ++ [("_in" : Text)]

variable (d e : Dimension)

/-- A membership predicate has its values under the steps of its dimension, and nothing under those
of another one, since the paths differ. -/
theorem under?_isAmong (values : List Value) :
    (Literal.ofValue (d.isAmong values).toWhere).term.under? e.amongSteps
      = if d = e then some (Literal.ofValue (.list values)).term else none := by
  rw [isAmong, Literal.ofValue_field]
  split
  · rename_i heq
    subst heq
    exact Term.under?_nested _ _
  · rename_i hne
    -- Two dimensions have paths of different steps, and neither is part of the other.
    refine Term.under?_nested_of_ne _ ?_ ?_ <;>
      cases d <;> cases e <;> first | exact absurd rfl hne | decide

/-- A membership predicate holds no search. -/
theorem under?_isAmong_search (values : List Value) :
    (Literal.ofValue (d.isAmong values).toWhere).term.under? searchSteps = none := by
  rw [isAmong, Literal.ofValue_field]
  refine Term.under?_nested_of_ne _ ?_ ?_ <;> cases d <;> decide

/-- An equality predicate holds no values of a membership predicate: the operator at the end of the
path is another one. -/
theorem under?_isEqual (value : Value) :
    (Literal.ofValue (d.isEqual value).toWhere).term.under? e.amongSteps = none := by
  rw [isEqual, Literal.ofValue_field]
  refine Term.under?_nested_of_ne _ ?_ ?_ <;> cases d <;> cases e <;> decide

/-- An equality predicate holds no search. -/
theorem under?_isEqual_search (value : Value) :
    (Literal.ofValue (d.isEqual value).toWhere).term.under? searchSteps = none := by
  rw [isEqual, Literal.ofValue_field]
  refine Term.under?_nested_of_ne _ ?_ ?_ <;> cases d <;> decide

/-- The values that a condition compares the field of a dimension with. -/
def chosenAt (condition : Term) : List Term :=
  ((condition.under? d.amongSteps).map Term.items).getD []

/-- The values that a clause asks for in a dimension. -/
def chosenIn (clause : Term) : List Term := clause.conjuncts.flatMap d.chosenAt

end Dimension

/-- The search text of a condition. -/
def searchedAt (condition : Term) : Option Text :=
  (condition.under? searchSteps).bind Term.text?

/-- The search text that a clause asks for. -/
def searchedIn (clause : Term) : Option Text := clause.conjuncts.findSome? searchedAt

namespace Value

variable {v : Value} {content : Text}

/-- The literal of a value that is a text stands for the text. A dimension is such a value, too. -/
theorem term_of_text? (h : v.text? = some content) : (Literal.ofValue v).term = .text content := by
  cases v with
  | text => cases h; rfl
  | dimension => cases h; rfl
  | _ => cases h

/-- The literal of a value that is a text is written as the text. -/
theorem write_of_text? (h : v.text? = some content) :
    (Literal.ofValue v).write = (Literal.text content).write := by
  cases v with
  | text => cases h; rfl
  | dimension => cases h; rfl
  | _ => cases h

end Value

namespace Selection

/-- The texts of the values chosen in a dimension, in their order. A value that is no text counts as
none. -/
def texts (s : Selection) (d : Dimension) : List (Option Text) := (s.values d).map Value.text?

/-- The active filters of two selections are equal, but for what is chosen in an excluded
dimension. -/
structure AgreesOff (excluded : Option Dimension) (s t : Selection) : Prop where
  texts : ∀ d, excluded ≠ some d → s.texts d = t.texts d
  search : s.normalizedSearch = t.normalizedSearch

variable {s t : Selection} {d : Dimension} {extra : List Expr}

/-- Leaving out a dimension keeps the search, so the search counts for every line of a query. -/
theorem normalizedSearch_excluding (s : Selection) (excluded : Option Dimension) :
    (s.excluding excluded).normalizedSearch = s.normalizedSearch := by
  cases excluded with
  | none => rfl
  | some d => cases d <;> rfl

/-! ### The filters are found in the clause -/

/-- The conditions of a selection, and those that ask for an id, are predicates. So a clause that
joins them can be taken apart into them. -/
theorem isPredicate_conditions (s : Selection)
    (hextra : ∀ e ∈ extra, ∃ d id, e = Dimension.isEqual d id) :
    ∀ e ∈ s.conditions ++ extra, e.isPredicate = true := by
  intro e he
  rcases List.mem_append.mp he with hmem | hmem
  · rcases cases_of_mem_conditions hmem with ⟨d, rfl⟩ | ⟨search, -, rfl⟩
    · cases d <;> rfl
    · rfl
  · obtain ⟨d, id, rfl⟩ := hextra e hmem
    cases d <;> rfl

/-- The condition of a dimension asks for the values that are chosen in it, and for none of another
dimension. -/
theorem chosenAt_dimensionCondition (s : Selection) (d e : Dimension) :
    (s.dimensionCondition? e).toList.flatMap
        (fun condition => d.chosenAt (Literal.ofValue condition.toWhere).term)
      = if e = d then (s.values d).map fun v => (Literal.ofValue v).term else [] := by
  rw [dimensionCondition?]
  -- A dimension without values has no condition, and then there is nothing to find either.
  by_cases hempty : (s.values e).isEmpty = true
  · simp only [hempty, if_true]
    split
    · rename_i heq
      rw [← heq, List.isEmpty_iff.mp hempty]
      rfl
    · rfl
  · simp only [if_neg hempty, Option.toList_some, List.flatMap_singleton]
    rw [Dimension.chosenAt, Dimension.under?_isAmong]
    split
    · rename_i heq
      subst heq
      show (Literal.ofValue (.list (s.values e))).term.items = _
      rw [Literal.ofValue, Literal.ofValueIn, Literal.term, Literal.terms_eq, Literal.ofItems_eq,
        List.map_map]
      rfl
    · rfl

/-- A clause of the conditions of a selection asks for the values that are chosen in a dimension.
Neither the search nor an added id is found there. -/
theorem chosenIn_conditions (s : Selection) (d : Dimension)
    (hextra : ∀ e ∈ extra, ∃ d id, e = Dimension.isEqual d id) :
    d.chosenIn (Literal.ofValue (Expr.ofList (s.conditions ++ extra)).toWhere).term
      = (s.values d).map fun v => (Literal.ofValue v).term := by
  -- The predicate of the search is about the name, and an added id is an equality. Both are passed
  -- over.
  have hsearch : s.searchCondition?.toList.flatMap
      (fun e => d.chosenAt (Literal.ofValue e.toWhere).term) = [] := by
    refine List.flatMap_eq_nil_iff.mpr fun e he => ?_
    obtain ⟨search, -, rfl⟩ := Option.map_eq_some_iff.mp (Option.mem_toList.mp he)
    cases d <;> rfl
  have hnone : extra.flatMap (fun e => d.chosenAt (Literal.ofValue e.toWhere).term) = [] := by
    refine List.flatMap_eq_nil_iff.mpr fun e he => ?_
    obtain ⟨d', id, rfl⟩ := hextra e he
    rw [Dimension.chosenAt, Dimension.under?_isEqual]
    rfl
  rw [Dimension.chosenIn, Expr.conjuncts_ofList (s.isPredicate_conditions hextra),
    List.flatMap_map, conditions, List.flatMap_append, List.flatMap_append, hsearch, hnone,
    List.filterMap_eq_flatMap_toList, List.flatMap_assoc]
  simp only [chosenAt_dimensionCondition, List.append_nil]
  cases d <;> simp [Dimension.all]

/-- A clause of the conditions of a selection asks for its search. The predicates of dimensions come
first and hold none. -/
theorem searchedIn_conditions (s : Selection)
    (hextra : ∀ e ∈ extra, ∃ d id, e = Dimension.isEqual d id) :
    searchedIn (Literal.ofValue (Expr.ofList (s.conditions ++ extra)).toWhere).term
      = s.normalizedSearch := by
  -- Neither the predicates of the dimensions nor an added id are about the name, so the search is
  -- found at its own predicate, if there is one.
  have hdimensions : (Dimension.all.filterMap s.dimensionCondition?).findSome?
      (fun e => searchedAt (Literal.ofValue e.toWhere).term) = none := by
    refine List.findSome?_eq_none_iff.mpr fun e he => ?_
    obtain ⟨d, -, hd⟩ := List.mem_filterMap.mp he
    rw [eq_isAmong_of_dimensionCondition? hd, searchedAt, Dimension.under?_isAmong_search]
    rfl
  have hnone : extra.findSome? (fun e => searchedAt (Literal.ofValue e.toWhere).term) = none := by
    refine List.findSome?_eq_none_iff.mpr fun e he => ?_
    obtain ⟨d, id, rfl⟩ := hextra e he
    rw [searchedAt, Dimension.under?_isEqual_search]
    rfl
  have hsearch : s.searchCondition?.toList.findSome?
      (fun e => searchedAt (Literal.ofValue e.toWhere).term) = s.normalizedSearch := by
    rw [searchCondition?]
    cases s.normalizedSearch <;> rfl
  rw [searchedIn, Expr.conjuncts_ofList (s.isPredicate_conditions hextra), List.findSome?_map,
    conditions]
  show List.findSome? (fun e : Expr => searchedAt (Literal.ofValue e.toWhere).term) _ = _
  rw [List.findSome?_append, List.findSome?_append, hdimensions, hnone, hsearch, Option.none_or,
    Option.or_none]

/-- Text values that stand for the same values of a query have equal texts: the text is found again
in the value. -/
theorem texts_of_map_term (hs : ∀ v ∈ s.values d, v.text?.isSome)
    (ht : ∀ v ∈ t.values d, v.text?.isSome)
    (h : (s.values d).map (fun v => (Literal.ofValue v).term)
      = (t.values d).map fun v => (Literal.ofValue v).term) : s.texts d = t.texts d := by
  have htext : ∀ values : List Value, (∀ v ∈ values, v.text?.isSome) →
      values.map Value.text? = (values.map fun v => (Literal.ofValue v).term).map Term.text? := by
    intro values hvalues
    rw [List.map_map]
    refine List.map_congr_left fun v hv => ?_
    obtain ⟨content, hcontent⟩ := Option.isSome_iff_exists.mp (hvalues v hv)
    rw [Function.comp_apply, Value.term_of_text? hcontent, hcontent]
    rfl
  rw [texts, texts, htext _ hs, htext _ ht, h]

/-! ### The clause is made of the filters -/

/-- Text values with equal texts are written alike. -/
theorem map_write_values (hs : ∀ v ∈ s.values d, v.text?.isSome)
    (ht : ∀ v ∈ t.values d, v.text?.isSome) (h : s.texts d = t.texts d) :
    (s.values d).map (fun v => (Literal.ofValue v).write)
      = (t.values d).map fun v => (Literal.ofValue v).write := by
  -- The text of a value decides how it is written, whether it is a string or a dimension.
  have hwrite : ∀ values : List Value, (∀ v ∈ values, v.text?.isSome) →
      values.map (fun v => (Literal.ofValue v).write)
        = (values.map Value.text?).map fun text => (Literal.text (text.getD "")).write := by
    intro values hvalues
    rw [List.map_map]
    refine List.map_congr_left fun v hv => ?_
    obtain ⟨content, hcontent⟩ := Option.isSome_iff_exists.mp (hvalues v hv)
    rw [Value.write_of_text? hcontent, Function.comp_apply, hcontent]
    rfl
  rw [hwrite _ hs, hwrite _ ht]
  exact congrArg _ h

/-- The conditions of selections of texts with equal active filters are written alike. A dimension
and the text of its name are written alike as well. -/
theorem map_whereText_conditions (hs : ∀ d, ∀ v ∈ s.values d, v.text?.isSome)
    (ht : ∀ d, ∀ v ∈ t.values d, v.text?.isSome) (h : s.AgreesOff none t) :
    s.conditions.map Expr.whereText = t.conditions.map Expr.whereText := by
  have hdimension : ∀ d, (s.dimensionCondition? d).map Expr.whereText
      = (t.dimensionCondition? d).map Expr.whereText := by
    intro d
    have htexts : s.texts d = t.texts d := h.texts d (fun heq => by cases heq)
    have hempty : (s.values d).isEmpty = (t.values d).isEmpty := by
      rw [← List.isEmpty_map (f := Value.text?), ← List.isEmpty_map (f := Value.text?)]
      exact congrArg List.isEmpty htexts
    -- Only the texts of the values are written, so equal texts make equal predicates.
    have hwrite : (d.isAmong (s.values d)).whereText = (d.isAmong (t.values d)).whereText := by
      refine Text.toList_inj.mp ?_
      rw [Expr.toList_whereText, Expr.toList_whereText, Dimension.isAmong, Dimension.isAmong,
        Literal.ofValue_field, Literal.ofValue_field]
      refine Literal.write_nested _ (Literal.write_list ?_)
      rw [Literal.ofItems_eq, Literal.ofItems_eq, List.map_map, List.map_map]
      exact map_write_values (hs d) (ht d) htexts
    rw [dimensionCondition?, dimensionCondition?]
    simp only [hempty]
    split
    · rfl
    · exact congrArg some hwrite
  have hsearch : s.searchCondition? = t.searchCondition? := by
    rw [searchCondition?, searchCondition?, h.search]
  rw [conditions, conditions, List.map_append, List.map_append, List.map_filterMap,
    List.map_filterMap, hsearch]
  simp only [hdimension]

/-- **Which selections have the same clause.** Two selections of texts leave out the same dimension,
or none, and add the same ids. The texts of the clauses are equal if and only if the active filters
are, but for what is left out. -/
theorem whereText_eq_iff (hs : ∀ d, ∀ v ∈ s.values d, v.text?.isSome)
    (ht : ∀ d, ∀ v ∈ t.values d, v.text?.isSome) (excluded : Option Dimension)
    (hextra : ∀ e ∈ extra, ∃ d id, e = Dimension.isEqual d (.text id)) :
    (Expr.ofList ((s.excluding excluded).conditions ++ extra)).whereText
        = (Expr.ofList ((t.excluding excluded).conditions ++ extra)).whereText
      ↔ s.AgreesOff excluded t := by
  constructor
  · intro h
    have hexpressible : ∀ u : Selection, (∀ d, ∀ v ∈ u.values d, v.text?.isSome) →
        (Expr.ofList ((u.excluding excluded).conditions ++ extra)).toWhere.IsExpressible := by
      intro u hu
      refine Expr.isExpressible_ofList fun e he => ?_
      rcases List.mem_append.mp he with hmem | hmem
      · exact isExpressible_conditions
          (fun d v hv => Value.isExpressible_of_text? (forall_values_excluding hu excluded d v hv))
          e hmem
      · obtain ⟨d, id, rfl⟩ := hextra e hmem
        exact d.isExpressible_isEqual (.text id)
    -- Equal texts are read as one value, in which the filters of both selections are found.
    have hterm := Expr.term_inj_of_whereText (hexpressible s hs) (hexpressible t ht) h
    have hids : ∀ e ∈ extra, ∃ d id, e = Dimension.isEqual d id :=
      fun e he => (hextra e he).imp fun d ⟨id, hid⟩ => ⟨_, hid⟩
    refine ⟨fun d hd => ?_, ?_⟩
    · have hchosen := congrArg d.chosenIn hterm
      rw [chosenIn_conditions _ d hids, chosenIn_conditions _ d hids, values_excluding,
        values_excluding, if_neg hd, if_neg hd] at hchosen
      exact texts_of_map_term (hs d) (ht d) hchosen
    · have hsearched := congrArg searchedIn hterm
      rw [searchedIn_conditions _ hids, searchedIn_conditions _ hids, normalizedSearch_excluding,
        normalizedSearch_excluding] at hsearched
      exact hsearched
  · intro h
    refine Expr.write_ofList ?_
    -- What is left out is empty in both, so both agree everywhere once it is left out.
    have hagree : (s.excluding excluded).AgreesOff none (t.excluding excluded) := by
      refine ⟨fun d _ => ?_, ?_⟩
      · rw [texts, texts, values_excluding, values_excluding]
        split
        · rfl
        · rename_i hd
          exact h.texts d hd
      · rw [normalizedSearch_excluding, normalizedSearch_excluding, h.search]
    rw [List.map_append, List.map_append,
      map_whereText_conditions (forall_values_excluding hs excluded)
        (forall_values_excluding ht excluded) hagree]

end Selection

end FacetSearch
