import FacetSearch.Proofs.Facets.Aliases
import FacetSearch.Proofs.Facets.Counts
import FacetSearch.Proofs.Facets.Writable

/-!
# `FacetSearch.Proofs.Facets.Meaning`: which profiles a facet counts

`Profile.meets` gives a where mapping its meaning. A profile meets the empty mapping, and a
conjunction when it meets every part. It meets `_in` under a path when it has one of the values
there, and `_eq` when it has the value. A profile can have several ids under one path. What the name
of a profile contains is any relation between profiles and texts.

Three where expressions are compared: the one that the query emits under the alias of an option, the
one of the selection in which the dimension holds that option alone, and the one of the selection
itself, which the query emits under the alias of the total. `meets_ofList` takes the three through
the rule that joins any number of conditions, and `meets_toExpr` reads off what a selection asks
for: in each dimension one of the chosen values, if any is chosen, and the search. The main fact
`facet_meaning` follows from the two.
-/

set_option autoImplicit false

namespace FacetSearch

/-- A profile as a where mapping sees it: the ids that it has under a path, and the search texts
that its name contains. -/
structure Profile where
  ids : List Text → List Text
  contains : Text → Bool

namespace Profile

/-- Whether a profile has a value under a path. -/
def has (p : Profile) (path : List Text) (value : Value) : Bool :=
  value.text?.any (p.ids path).contains

/-- Whether the name of a profile contains a value. -/
def nameContains (p : Profile) (path : List Text) (value : Value) : Bool :=
  path == ["name"] && value.text?.any p.contains

mutual

/-- Whether a profile meets a where mapping that stands below a path. -/
def meetsAt (p : Profile) (path : List Text) : Value → Bool
  | .map entries => meetsEntries p path entries
  | _ => false

/-- Whether a profile meets every entry of a where mapping. -/
def meetsEntries (p : Profile) (path : List Text) : List (Value × Value) → Bool
  | [] => true
  | (key, value) :: rest =>
      (match key.text? with
        | none => false
        | some step =>
            if step = "_and" then meetsConjunction p path value
            else if step = "_in" then (value.sequence?.getD []).any (p.has path)
            else if step = "_eq" then p.has path value
            else if step = "_contains" then p.nameContains path value
            else meetsAt p (path ++ [step]) value) && meetsEntries p path rest

/-- Whether a profile meets every part of a conjunction. -/
def meetsConjunction (p : Profile) (path : List Text) : Value → Bool
  | .list parts => meetsAll p path parts
  | _ => false

/-- Whether a profile meets every one of several where mappings. -/
def meetsAll (p : Profile) (path : List Text) : List Value → Bool
  | [] => true
  | w :: ws => meetsAt p path w && meetsAll p path ws

end

/-- Whether a profile meets a where mapping. -/
def meets (p : Profile) (w : Value) : Bool := p.meetsAt [] w

/-- The steps under which a profile has its ids of a dimension. -/
def steps (d : Dimension) : List Text := pathSteps d.fieldPath

/-- The operators of where mappings, which are no steps of a path. -/
def operators : List Text := ["_and", "_in", "_eq", "_contains"]

/-- Under the steps of a path a where mapping asks for what stands below them. By induction on the
steps: each of them takes the evaluator one mapping down. -/
theorem meetsAt_nested (p : Profile) (path below : List Text) (node : Value)
    (h : ∀ step ∈ below, step ∉ operators) :
    p.meetsAt path (Expr.nested below node) = p.meetsAt (path ++ below) node := by
  induction below generalizing path with
  | nil => rw [List.append_nil]; rfl
  | cons step rest ih =>
      have hstep : step ∉ operators := h step List.mem_cons_self
      simp only [operators, List.mem_cons, List.not_mem_nil, not_or, or_false] at hstep
      obtain ⟨hand, hin, heq, hcontains⟩ := hstep
      -- No step is an operator, so the evaluator goes one step down the path.
      have hentry : p.meetsAt path (Expr.nested (step :: rest) node)
          = p.meetsAt (path ++ [step]) (Expr.nested rest node) := by
        show p.meetsEntries path [(.text step, Expr.nested rest node)] = _
        simp [meetsEntries, Value.text?, hand, hin, heq, hcontains]
      rw [hentry, ih _ fun s hs => h s (List.mem_cons_of_mem _ hs), List.append_assoc]
      rfl

/-- No step of the path of a dimension is an operator, so the evaluator goes down the path and does
not take a step for a condition. -/
theorem steps_not_operators (d : Dimension) : ∀ step ∈ steps d, step ∉ operators := by
  cases d <;> decide

/-- A profile meets the membership predicate of a dimension when it has one of the values there. -/
theorem meets_isAmong (p : Profile) (d : Dimension) (values : List Value) :
    p.meets (d.isAmong values).toWhere = values.any (p.has (steps d)) := by
  rw [meets, Dimension.isAmong, Expr.toWhere]
  show p.meetsAt [] (Expr.nested (steps d) _) = _
  rw [meetsAt_nested _ _ _ _ (steps_not_operators d)]
  simp [meetsAt, meetsEntries, Value.text?, Value.sequence?]

/-- A profile meets the equality predicate of a dimension when it has the value there. Membership in
the list of this one value asks for the same. -/
theorem meets_isEqual (p : Profile) (d : Dimension) (value : Value) :
    p.meets (d.isEqual value).toWhere = p.has (steps d) value := by
  rw [meets, Dimension.isEqual, Expr.toWhere]
  show p.meetsAt [] (Expr.nested (steps d) _) = _
  rw [meetsAt_nested _ _ _ _ (steps_not_operators d)]
  simp [meetsAt, meetsEntries, Value.text?]

/-- A profile meets several where mappings when it meets each of them. -/
theorem meetsAll_eq (p : Profile) (path : List Text) (ws : List Value) :
    p.meetsAll path ws = ws.all (p.meetsAt path) := by
  induction ws with
  | nil => rfl
  | cons w ws ih => rw [meetsAll, ih, List.all_cons]

/-- However many conditions are joined, a profile meets the result when it meets each of them. The
three ways of joining, of none, of one and of more, differ in text and not in meaning. -/
theorem meets_ofList (p : Profile) (es : List Expr) :
    p.meets (Expr.ofList es).toWhere = es.all fun e => p.meets e.toWhere := by
  match es with
  | [] => rfl
  | [e] => rw [Expr.ofList, List.all_cons, List.all_nil, Bool.and_true]
  | first :: second :: rest =>
      rw [Expr.ofList, Expr.toWhere, Expr.toWheres_eq, meets, meetsAt]
      simp [meetsEntries, meetsConjunction, meetsAll_eq, Value.text?, meets, Function.comp_def]

/-! ### What a selection asks for -/

/-- Whether a profile has one of the values chosen in a dimension, if any is chosen. -/
def hasChosen (p : Profile) (s : Selection) (d : Dimension) : Bool :=
  (s.values d).isEmpty || (s.values d).any (p.has (steps d))

/-- Whether a profile meets the search, if there is one. -/
def meetsSearch (p : Profile) (s : Selection) : Bool :=
  s.searchCondition?.toList.all fun e => p.meets e.toWhere

/-- A profile meets the predicates of dimensions when it has a chosen value in each of them. A
dimension without a choice gives no predicate, and asks for nothing. -/
theorem meets_dimensionConditions (p : Profile) (s : Selection) (ds : List Dimension) :
    ((ds.filterMap s.dimensionCondition?).all fun e => p.meets e.toWhere)
      = ds.all (p.hasChosen s) := by
  induction ds with
  | nil => rfl
  | cons d ds ih =>
      rw [List.filterMap_cons, List.all_cons, ← ih, Selection.dimensionCondition?, hasChosen]
      cases hempty : (s.values d).isEmpty with
      | true => simp
      | false => simp [meets_isAmong]

/-- A profile meets the conditions of a selection when it has a chosen value in every dimension with
a choice, and meets the search. -/
theorem meets_conditions (p : Profile) (s : Selection) :
    (s.conditions.all fun e => p.meets e.toWhere)
      = (Dimension.all.all (p.hasChosen s) && p.meetsSearch s) := by
  rw [Selection.conditions, List.all_append, meets_dimensionConditions, meetsSearch]

/-- A profile meets the where mapping of a selection when it meets its conditions. -/
theorem meets_toExpr (p : Profile) (s : Selection) :
    p.meets s.toExpr.toWhere = (Dimension.all.all (p.hasChosen s) && p.meetsSearch s) := by
  rw [Selection.toExpr, meets_ofList, meets_conditions]

/-- A profile meets the conditions of a selection and one more when it meets both. The clause of an
option is of this form. -/
theorem meets_conditions_append (p : Profile) (s : Selection) (e : Expr) :
    p.meets (Expr.ofList (s.conditions ++ [e])).toWhere
      = (p.meets s.toExpr.toWhere && p.meets e.toWhere) := by
  rw [Selection.toExpr, meets_ofList, meets_ofList, List.all_append, List.all_cons, List.all_nil,
    Bool.and_true]

/-- What a selection asks for in one dimension stands apart from what it asks for in the others. All
comparisons of clauses below rest on this split. -/
theorem meets_toExpr_split (p : Profile) (s : Selection) (d : Dimension) :
    p.meets s.toExpr.toWhere = (p.meets (s.without d).toExpr.toWhere && p.hasChosen s d) := by
  -- The search is no part of a dimension, so leaving one out keeps it.
  have hsearch : p.meetsSearch (s.without d) = p.meetsSearch s := by
    cases d <;> rfl
  rw [meets_toExpr, meets_toExpr, hsearch]
  -- One dimension is left out, so its factor is true on the left and stands alone on the right; the
  -- others only change their order.
  cases d <;>
    simp [Dimension.all, hasChosen, Selection.values, Selection.chosen, Selection.without,
      Bool.and_comm, Bool.and_assoc, Bool.and_left_comm]

end Profile

/-- The selection in which a dimension holds the given values. -/
def Selection.choosing (s : Selection) (values : List Value) : Dimension → Selection
  | .types => { s with types := some values }
  | .sectors => { s with sectors := some values }
  | .statuses => { s with statuses := some values }
  | .tags => { s with tags := some values }

namespace Profile

open FacetQuery

variable (p : Profile) (s : Selection) (d : Dimension)

/-- A profile is counted for an option when it meets the selection in the other dimensions and has
the id of the option. The choice in the own dimension does not enter. -/
theorem meets_optionExpr (row : Choice) :
    p.meets (optionExpr s d row).toWhere
      = (p.meets (s.without d).toExpr.toWhere && p.has (steps d) (.text row.id)) := by
  rw [optionExpr, meets_conditions_append, meets_isEqual]

/-- A profile meets a selection with one value in a dimension when it meets the selection in the
other dimensions and has the value. -/
theorem meets_choosing (value : Value) :
    p.meets (s.choosing [value] d).toExpr.toWhere
      = (p.meets (s.without d).toExpr.toWhere && p.has (steps d) value) := by
  -- The two selections differ in the dimension alone, so they agree once it is left out.
  have hwithout : (s.choosing [value] d).without d = s.without d := by
    cases d <;> rfl
  have hvalues : (s.choosing [value] d).values d = [value] := by
    cases d <;> rfl
  rw [meets_toExpr_split p _ d, hwithout, hasChosen, hvalues]
  simp

/-- A profile that is counted for an option meets the selection, when nothing is chosen in the
dimension of the option or the option is among the choice. Otherwise the two sets of profiles may be
disjoint, and a count may exceed the total. -/
theorem meets_toExpr_of_meets_optionExpr {row : Choice}
    (hchoice : s.values d = [] ∨ ∃ v ∈ s.values d, v.text? = some row.id)
    (h : p.meets (optionExpr s d row).toWhere = true) : p.meets s.toExpr.toWhere = true := by
  rw [meets_optionExpr, Bool.and_eq_true] at h
  obtain ⟨hothers, hid⟩ := h
  rw [meets_toExpr_split p s d, hothers, Bool.true_and, hasChosen]
  -- Without a choice there is nothing more to meet; with one, the id of the option is a witness.
  rcases hchoice with hnone | ⟨v, hv, htext⟩
  · rw [hnone]
    rfl
  · have hhas : p.has (steps d) v = true := by
      rw [has, htext]
      exact hid
    rw [List.any_eq_true.mpr ⟨v, hv, hhas⟩, Bool.or_true]

/-- A profile meets a selection with a choice in a dimension when it meets, for one of the values
chosen, the selection in the other dimensions together with that value. -/
theorem meets_toExpr_iff_exists (h : s.values d ≠ []) :
    p.meets s.toExpr.toWhere = true ↔ ∃ v ∈ s.values d,
      p.meets (Expr.ofList ((s.without d).conditions ++ [d.isEqual v])).toWhere = true := by
  have hempty : (s.values d).isEmpty = false := List.isEmpty_eq_false_iff.mpr h
  rw [meets_toExpr_split p s d, hasChosen, hempty, Bool.false_or, Bool.and_eq_true,
    List.any_eq_true]
  -- The disjunction over the values is drawn out of the conjunction: to meet one of them is to meet
  -- the selection with it.
  constructor
  · rintro ⟨hothers, v, hv, hhas⟩
    refine ⟨v, hv, ?_⟩
    rw [meets_conditions_append, meets_isEqual, hothers, hhas]
    rfl
  · rintro ⟨v, hv, hmeets⟩
    rw [meets_conditions_append, meets_isEqual, Bool.and_eq_true] at hmeets
    exact ⟨hmeets.1, v, hv, hmeets.2⟩

end Profile

/-- **What a facet count means.** The query of a selection of texts compiles over any catalog, with
the options that have a name. Its aliases and its text are made of aliased expressions, and each
alias occurs once, so the clause of an option is the expression under its alias and the clause of
the total the one under the alias of the total.

* The clause of an option is met by the profiles that meet the selection in which the dimension
  holds this option alone.
* So the count of an option does not exceed the total, when nothing is chosen in the dimension or
  the option is among the choice.
* When values are chosen in a dimension, the profiles behind the total are those that, for one of
  these values, meet the selection in the other dimensions together with it. -/
theorem facet_meaning (names : FacetNames) (s : Selection) (c : Catalog)
    (htexts : ∀ d, ∀ v ∈ s.values d, v.text?.isSome) :
    ∃ (q : FacetQuery) (emitted : List (Text × Expr)) (total : Expr),
      FacetQuery.compile names s c = .ok q ∧ q.Emits names emitted ∧ q.aliases.Nodup ∧
      (∀ d, q.options d = (c.options d).filter fun row => !row.isPlaceholder) ∧
      (totalAlias, total) ∈ emitted ∧
      ∀ d : Dimension,
        (∀ position row, (q.options d)[position]? = some row → ∃ clause,
          (d.aliasAt position, clause) ∈ emitted ∧ ∀ profiles : List Profile,
            profiles.filter (·.meets clause.toWhere)
              = profiles.filter (·.meets (s.choosing [.text row.id] d).toExpr.toWhere) ∧
            ((s.values d = [] ∨ ∃ v ∈ s.values d, v.text? = some row.id) →
              profiles.countP (·.meets clause.toWhere)
                ≤ profiles.countP (·.meets total.toWhere))) ∧
        (s.values d ≠ [] → ∀ p : Profile, p.meets total.toWhere = true ↔
          ∃ v ∈ s.values d, p.meets
            (Expr.ofList ((s.without d).conditions ++ [d.isEqual v])).toWhere = true) := by
  -- Texts can always be written, so the compiler does not refuse the selection.
  have hwritable : ∀ d, ∀ v ∈ s.values d, v.isWritable = true := by
    intro d v hv
    obtain ⟨content, hcontent⟩ := Option.isSome_iff_exists.mp (htexts d v hv)
    exact Value.isWritable_of_text? hcontent
  refine ⟨_, _, s.toExpr, FacetQuery.compile_of_writable names c hwritable,
    FacetQuery.emits_ofOptions _ _ _, FacetQuery.nodup_aliases _ _ _, fun _ => rfl,
    FacetQuery.total_mem_fields _ _, fun d => ⟨fun position row hrow => ?_, fun hchosen p => ?_⟩⟩
  · refine ⟨_, FacetQuery.mem_fields_of_option hrow, fun profiles => ⟨?_, fun hchoice => ?_⟩⟩
    · exact List.filter_congr fun p _ =>
        (p.meets_optionExpr s d row).trans (p.meets_choosing s d _).symm
    · exact List.countP_mono_left fun p _ => p.meets_toExpr_of_meets_optionExpr s d hchoice
  · exact p.meets_toExpr_iff_exists s d hchosen

/-- The main fact at a choice of two types and a sector, for the two options of the types that have
a name. The first of them is among the choice, so the bound is for this one. -/
theorem facet_meaning_two_types :
    let s : Selection :=
      { types := some [.text "1", .text "2"], sectors := some [.dimension .sectors] }
    let c : Catalog := { profileTypes :=
      [.plain "1" (some "A"), .plain "8" (some " "), .plain "9" (some "B")] }
    (∀ d, ∀ v ∈ s.values d, v.text?.isSome) ∧
      ∃ (q : FacetQuery) (emitted : List (Text × Expr)) (total first second : Expr),
        FacetQuery.compile {} s c = .ok q ∧ q.Emits {} emitted ∧
        (totalAlias, total) ∈ emitted ∧ (("type_0" : Text), first) ∈ emitted ∧
        (("type_1" : Text), second) ∈ emitted ∧ ∀ profiles : List Profile,
          profiles.countP (·.meets first.toWhere) ≤ profiles.countP (·.meets total.toWhere) ∧
          profiles.filter (·.meets second.toWhere)
            = profiles.filter (·.meets (s.choosing [.text "9"] .types).toExpr.toWhere) := by
  intro s c
  have htexts : ∀ d, ∀ v ∈ s.values d, v.text?.isSome := by
    intro d
    cases d <;> simp [s, Selection.values, Selection.chosen, Value.text?]
  obtain ⟨q, emitted, total, hcompile, hemits, -, hoptions, htotal, hmeaning⟩ :=
    facet_meaning {} s c htexts
  -- The option with a blank name is no option of the query, so the positions are those of the other
  -- two.
  have hrows : q.options .types = [.plain "1" (some "A"), .plain "9" (some "B")] := by
    rw [hoptions]
    rfl
  obtain ⟨first, hfirst, hbound⟩ := (hmeaning .types).1 0 _ (by rw [hrows]; rfl)
  obtain ⟨second, hsecond, hsame⟩ := (hmeaning .types).1 1 _ (by rw [hrows]; rfl)
  refine ⟨htexts, q, emitted, total, first, second, hcompile, hemits, htotal, hfirst, hsecond,
    fun profiles => ⟨(hbound profiles).2 (Or.inr ?_), (hsame profiles).1⟩⟩
  exact ⟨.text "1", List.mem_cons_self, rfl⟩

end FacetSearch
