import FacetSearch.Proofs.Facets.Aliases
import FacetSearch.Proofs.Selection.Expressible
import FacetSearch.Selection.Session

/-!
# `FacetSearch.Proofs.Selection.Excluded`: leaving out dimensions is exact and has no order

Leaving out a dimension drops its predicate and nothing else. `conditions_withoutAll` says this for
any dimensions left out one by one: the conditions are those of the selection, in their order, less
the predicates of these dimensions. What comes out depends on which dimensions were left out, and
not on their order or on how often (`withoutAll_congr`).

A session takes copies of a selection and tries to assign to them. Every selection that it made
stays as it was, because an assignment fails before it changes anything (`step_assign`) and the
other steps only add selections or choose among them (`made_prefix_step`, `made_prefix_run`). So the
starting selection is there at the end as it was at the start, and the one in use is the starting
one without the dimensions left out since it was last taken up (`current_run`).

`excluding_exact` is the main statement and has both parts.
-/

set_option autoImplicit false

namespace FacetSearch

/-- Whether an expression is a predicate on the field of a dimension. The predicate of the search
and a conjunction are on none. -/
def Expr.constrains (e : Expr) (d : Dimension) : Bool :=
  match e with
  | .field path _ _ => path == d.fieldPath
  | _ => false

/-- A predicate on the field of a dimension is on the field of no other. -/
theorem Dimension.constrains_isAmong (d e : Dimension) (values : List Value) :
    (d.isAmong values).constrains e = decide (d = e) := by
  cases d <;> cases e <;> rfl

namespace Selection

/-! ### Fields -/

/-- A selection is known by what is chosen in each dimension and by its search, so selections can be
compared dimension by dimension. -/
theorem eq_of_chosen {s t : Selection} (hchosen : ∀ d, s.chosen d = t.chosen d)
    (hsearch : s.search = t.search) : s = t := by
  obtain ⟨types, sectors, statuses, tags, search⟩ := s
  obtain ⟨types', sectors', statuses', tags', search'⟩ := t
  have htypes : types = types' := hchosen .types
  have hsectors : sectors = sectors' := hchosen .sectors
  have hstatuses : statuses = statuses' := hchosen .statuses
  have htags : tags = tags' := hchosen .tags
  have hsearch : search = search' := hsearch
  rw [htypes, hsectors, hstatuses, htags, hsearch]

/-- Leaving out dimensions one by one clears these and no others. By induction on the dimensions;
the order disappears in the membership. -/
theorem chosen_withoutAll (s : Selection) (ds : List Dimension) (d : Dimension) :
    (s.withoutAll ds).chosen d = if d ∈ ds then none else s.chosen d := by
  unfold withoutAll
  induction ds generalizing s with
  | nil => simp
  | cons e rest ih =>
      have hone : (s.without e).chosen d = if d = e then none else s.chosen d := by
        cases d <;> cases e <;> rfl
      rw [List.foldl_cons, ih, hone]
      by_cases hrest : d ∈ rest
      · simp [hrest]
      · simp [hrest]

/-- Leaving out dimensions keeps the search. -/
theorem search_withoutAll (s : Selection) (ds : List Dimension) :
    (s.withoutAll ds).search = s.search := by
  unfold withoutAll
  induction ds generalizing s with
  | nil => rfl
  | cons e rest ih =>
      rw [List.foldl_cons, ih]
      cases e <;> rfl

/-- Only which dimensions are left out matters, and not in which order or how often. -/
theorem withoutAll_congr (s : Selection) {ds others : List Dimension}
    (h : ∀ d, d ∈ ds ↔ d ∈ others) : s.withoutAll ds = s.withoutAll others := by
  refine eq_of_chosen (fun d => ?_) ?_
  · rw [chosen_withoutAll, chosen_withoutAll]
    simp only [h d]
  · rw [search_withoutAll, search_withoutAll]

/-- To exclude a dimension, if one is named, is to leave it out behind the others. So one theorem
covers both ways. -/
theorem excluding_withoutAll (s : Selection) (ds : List Dimension) (excluded : Option Dimension) :
    (s.withoutAll ds).excluding excluded = s.withoutAll (ds ++ excluded.toList) := by
  unfold withoutAll
  rw [List.foldl_append]
  cases excluded <;> rfl

/-! ### Conditions -/

/-- A dimension that is left out has no predicate, and the others keep theirs, with the same
values. -/
theorem dimensionCondition?_withoutAll (s : Selection) (ds : List Dimension) (d : Dimension) :
    (s.withoutAll ds).dimensionCondition? d = if d ∈ ds then none else s.dimensionCondition? d := by
  unfold dimensionCondition? values
  rw [chosen_withoutAll]
  by_cases hd : d ∈ ds
  · simp [hd]
  · simp [hd]

/-- Leaving out dimensions keeps the predicate of the search. -/
theorem searchCondition?_withoutAll (s : Selection) (ds : List Dimension) :
    (s.withoutAll ds).searchCondition? = s.searchCondition? := by
  unfold searchCondition? normalizedSearch
  rw [search_withoutAll]

/-- The predicate of a dimension is on the field of this dimension. -/
theorem constrains_dimensionCondition? {s : Selection} {d : Dimension} {c : Expr}
    (h : s.dimensionCondition? d = some c) (e : Dimension) :
    c.constrains e = decide (d = e) := by
  rw [eq_isAmong_of_dimensionCondition? h, Dimension.constrains_isAmong]

/-- The predicate of the search is on the field of no dimension. -/
theorem constrains_searchCondition? {s : Selection} {c : Expr} (h : s.searchCondition? = some c)
    (d : Dimension) : c.constrains d = false := by
  unfold searchCondition? at h
  obtain ⟨search, -, rfl⟩ := Option.map_eq_some_iff.mp h
  cases d <;> rfl

/-- **Leaving out is exact.** The conditions that remain are those of the selection less the
predicates on the dimensions left out. -/
theorem conditions_withoutAll (s : Selection) (ds : List Dimension) :
    (s.withoutAll ds).conditions = s.conditions.filter fun c => !ds.any c.constrains := by
  unfold conditions
  rw [searchCondition?_withoutAll, List.filter_append, List.filter_filterMap]
  have hdimension : ∀ d, (s.withoutAll ds).dimensionCondition? d
      = (s.dimensionCondition? d).filter fun c => !ds.any c.constrains := by
    intro d
    rw [dimensionCondition?_withoutAll]
    cases hc : s.dimensionCondition? d with
    | none => simp
    | some c =>
        have hany : ds.any c.constrains = decide (d ∈ ds) := by
          simp [List.any_eq, constrains_dimensionCondition? hc]
        by_cases hd : d ∈ ds
        · simp [hd, hany, Option.filter]
        · simp [hd, hany, Option.filter]
  -- The predicate of the search is on no dimension, so the filter keeps it.
  have hsearch : s.searchCondition?.toList.filter (fun c => !ds.any c.constrains)
      = s.searchCondition?.toList := by
    refine List.filter_eq_self.mpr fun c hc => ?_
    have hnone : ds.any c.constrains = false := by
      refine List.any_eq_false.mpr fun d _ => ?_
      rw [constrains_searchCondition? (Option.mem_toList.mp hc)]
      exact Bool.false_ne_true
    rw [hnone]
    rfl
  rw [hsearch]
  exact congrArg (· ++ _) (List.filterMap_congr fun d _ => hdimension d)

/-- The conditions that remain, dimension by dimension, with that of the search last. -/
theorem conditions_withoutAll_eq_append (s : Selection) (ds : List Dimension) :
    (s.withoutAll ds).conditions
      = (Dimension.all.filter fun d => d ∉ ds).filterMap s.dimensionCondition?
        ++ s.searchCondition?.toList := by
  unfold conditions
  rw [searchCondition?_withoutAll, List.filterMap_filter]
  refine congrArg (· ++ _) (List.filterMap_congr fun d _ => ?_)
  rw [dimensionCondition?_withoutAll]
  by_cases hd : d ∈ ds
  · simp [hd]
  · simp [hd]

end Selection

namespace SelectionSession

/-! ### Sessions -/

/-- The dimensions left out of the selection in use since the starting one was last taken up, when
some were left out before the steps. -/
def leftOut : List Dimension → List SelectionStep → List Dimension
  | ds, [] => ds
  | ds, .without d :: rest => leftOut (ds ++ [d]) rest
  | _, .reset :: rest => leftOut [] rest
  | ds, .assign _ _ :: rest => leftOut ds rest

/-- An assignment fails at the name of its field and changes nothing, whatever field and value it is
about. -/
theorem step_assign (v : SelectionSession) (field : Selection.Field) (value : Value) :
    v.step (.assign field value)
      = (.error (.invalid Selection.recordName [⟨[.name field.name], .frozen⟩]), v) := rfl

/-- The starting selection can be taken up again at any time. -/
theorem step_reset (v : SelectionSession) : v.step .reset = (.ok v.first, v.restart) := rfl

/-- A step keeps every selection made so far, each in its place. -/
theorem made_prefix_step (v : SelectionSession) (s : SelectionStep) :
    v.made <+: (v.step s).2.made := by
  cases s with
  | without d => exact List.prefix_append _ _
  | reset => exact List.prefix_refl _
  | assign field value =>
      rw [step_assign]

/-- A run keeps every selection made so far, each in its place. By induction on the steps. -/
theorem made_prefix_run (v : SelectionSession) (steps : List SelectionStep) :
    v.made <+: (v.run steps).2.made := by
  induction steps generalizing v with
  | nil => exact List.prefix_refl _
  | cons s rest ih => exact (v.made_prefix_step s).trans (ih (v.step s).2)

/-- Sessions that made the same selections first started from the same one, since the starting
selection is the first that was made. -/
theorem first_of_prefix {v w : SelectionSession} (h : v.made <+: w.made) : w.first = v.first := by
  unfold first
  rw [List.get_eq_getElem, List.get_eq_getElem, h.getElem]

/-- The starting selection of a session stays what it was. -/
theorem first_run (v : SelectionSession) (steps : List SelectionStep) :
    (v.run steps).2.first = v.first :=
  first_of_prefix (v.made_prefix_run steps)

/-- The selection that was made last is in use. -/
theorem current_add (v : SelectionSession) (s : Selection) : (v.add s).current = s := by
  unfold current add
  simp

/-- The selection in use is the starting one without the dimensions that were left out. -/
theorem current_run (v : SelectionSession) {ds : List Dimension}
    (h : v.current = v.first.withoutAll ds) (steps : List SelectionStep) :
    (v.run steps).2.current = v.first.withoutAll (leftOut ds steps) := by
  induction steps generalizing v ds with
  | nil => exact h
  | cons s rest ih =>
      -- The step keeps the starting selection, so the rest of the run is about the same one.
      have hfirst : (v.step s).2.first = v.first := first_of_prefix (v.made_prefix_step s)
      show ((v.step s).2.run rest).2.current = _
      rw [← hfirst]
      cases s with
      -- Only this step changes the selection in use; it adds the dimension to those left out.
      | without d =>
          refine ih _ ?_
          rw [hfirst]
          show (v.add (v.current.without d)).current = _
          rw [current_add, h]
          unfold Selection.withoutAll
          rw [List.foldl_append]
          rfl
      | reset => exact ih _ rfl
      | assign field value => exact ih _ h

end SelectionSession

/-- **Leaving out dimensions is exact and has no order.** For every selection:

* When dimensions are left out one by one, and one more is excluded or none, the conditions that
  remain are its own less the predicates on these dimensions. They stand in the order of dimensions,
  and that of the search is last.
* The selection that is left depends only on which dimensions were left out.
* Over every session that starts from it, each selection made stays as it was, the starting one
  among them, and the one in use is the starting one without the dimensions left out since it was
  taken up. An assignment fails with a report of its field and leaves the session as it is. -/
theorem Selection.excluding_exact (s : Selection) :
    (∀ (ds : List Dimension) (excluded : Option Dimension),
      ((s.withoutAll ds).excluding excluded).conditions
        = s.conditions.filter (fun c => !(ds ++ excluded.toList).any c.constrains) ∧
      ((s.withoutAll ds).excluding excluded).conditions
        = (Dimension.all.filter fun d => d ∉ ds ++ excluded.toList).filterMap
            s.dimensionCondition? ++ s.searchCondition?.toList) ∧
    (∀ ds others : List Dimension, (∀ d, d ∈ ds ↔ d ∈ others) →
      s.withoutAll ds = s.withoutAll others) ∧
    ∀ earlier later : List SelectionStep,
      let v := ((SelectionSession.start s).run earlier).2
      v.first = s ∧
      v.current = s.withoutAll (SelectionSession.leftOut [] earlier) ∧
      v.made <+: (v.run later).2.made ∧
      v.step .reset = (.ok s, v.restart) ∧
      ∀ field value, v.step (.assign field value)
        = (.error (.invalid recordName [⟨[.name field.name], .frozen⟩]), v) := by
  refine ⟨fun ds excluded => ?_, fun ds others => s.withoutAll_congr, fun earlier later => ?_⟩
  -- One more exclusion is one more dimension that is left out.
  · rw [excluding_withoutAll]
    exact ⟨s.conditions_withoutAll _, s.conditions_withoutAll_eq_append _⟩
  -- A session keeps what it started from and only adds to what it has made, by its step and run
  -- lemmas.
  · intro v
    have hfirst : v.first = s := (SelectionSession.start s).first_run earlier
    refine ⟨hfirst, ?_, v.made_prefix_run later, ?_, v.step_assign⟩
    · exact (SelectionSession.start s).current_run rfl earlier
    · rw [v.step_reset, hfirst]

/-- The main fact at a selection of a type and a sector with a search. Types and tags are left out
in two orders, and types twice. A session that leaves out both also tries to assign to the
sectors. -/
theorem Selection.excluding_exact_types_twice :
    let s : Selection :=
      { types := some [.text "1"], sectors := some [.text "2"], search := some " x " }
    let v := ((SelectionSession.start s).run
      [.without .types, .assign (.chosen .sectors) .null, .without .tags]).2
    s.withoutAll [.types, .tags, .types] = s.withoutAll [.tags, .types] ∧
      ((s.withoutAll [.types, .types]).excluding (some .tags)).conditions
        = [Dimension.sectors.isAmong [.text "2"], .field "name" "_contains" (.text "x")] ∧
      v.first = s ∧ v.current = s.withoutAll [.types, .tags] := by
  intro s v
  obtain ⟨hexact, hcongr, hsession⟩ := Selection.excluding_exact s
  obtain ⟨hfirst, hcurrent, -⟩ :=
    hsession [.without .types, .assign (.chosen .sectors) .null, .without .tags] []
  refine ⟨hcongr _ _ fun d => ?_, (hexact _ _).1.trans rfl, hfirst, hcurrent⟩
  cases d <;> simp

end FacetSearch
