import FacetSearch.Proofs.Catalog.Tables
import FacetSearch.Proofs.Facets.Line
import FacetSearch.Proofs.OperationName
import FacetSearch.Proofs.Selection.Filters
import FacetSearch.Proofs.Text.Split
import FacetSearch.Service

/-!
# `FacetSearch.Proofs.Facets.Document`: a facet query reads back as what was meant

A facet query is a heading, one line for each alias, and a closing brace. The main fact
`FacetQuery.readsBack` says that the text of a query comes apart into these lines at its line ends,
whatever texts it carries, and that each line is read as one field. This field counts the profiles
of a where clause under the alias. For an option the clause is equal to the where mapping of the
option. For the total it is equal to the variable that a listing of the same selection binds, and
empty for a selection without filters. The name of the operation is found in the heading.

The lines are apart because no field holds a line end (`isOneLine_line`), and what a line is read as
is `readField?_line`. Integers are assumed to be short enough to print.
-/

set_option autoImplicit false

namespace FacetSearch

open Grammar

namespace Service

/-- A listing of a selection with filters runs the document of listings. Its `where` variable is the
where mapping of the selection, the same that the total of a facet query is written for. -/
theorem search_of_hasFilters {σ : Type} (service : Service σ) {choice number page offset : Value}
    (hfilters : (Selection.coerce choice).hasFilters = true)
    (hpage : number.atLeastZero = .ok page) (hoffset : page.times service.pageSize = .ok offset) :
    service.search choice number
      = (service.run (.text Document.profileSearch) (Value.ofFields
          [("where", (Selection.coerce choice).toExpr.toWhere), ("limit", service.pageSize),
            ("offset", offset)])).andThen
          (fun data => do service.pageOf page (some (← profilesOf data))) := by
  funext session
  -- The variables can be told, since the page has an offset.
  have hbindings : service.searchVariables (Selection.coerce choice) page
      = .ok (Value.ofFields [("where", (Selection.coerce choice).toExpr.toWhere),
          ("limit", service.pageSize), ("offset", offset)]) := by
    rw [searchVariables, hoffset]
    rfl
  rw [search]
  simp only [hpage, hfilters, Bool.not_true, Bool.false_eq_true, if_false, hbindings]

end Service

namespace FacetQuery

/-- A line of a query stays on its line. Whatever a chosen text holds, its line ends are escaped in
the literal, so no text can end the line early. -/
theorem isOneLine_line (names : FacetNames) (haggregate : isName names.aggregateField = true)
    {field : Text × Expr} (halias : isName field.1 = true)
    (hwhere : field.2.toWhere.IsExpressible) : isOneLine (line names field).toList = true := by
  rw [line]
  simp only [Text.toList_append, isOneLine_append, isOneLine_of_isName halias,
    isOneLine_of_isName haggregate, Expr.whereText, hwhere.isOneLine, Bool.and_true]
  decide

/-- The text of a query comes apart into its heading, its lines and the closing brace. So no chosen
text and no id can add a line of its own. -/
theorem partsAt_document (names : FacetNames) (hoperation : isName names.operationName = true)
    (haggregate : isName names.aggregateField = true) {fields : List (Text × Expr)}
    (hfields : ∀ field ∈ fields, isName field.1 = true ∧ field.2.toWhere.IsExpressible) :
    partsAt (CodePoint.char '\n') (document names fields).toList
      = (heading names).toList :: fields.map (fun field => (line names field).toList)
        ++ [("\x7d" : Text).toList] := by
  have hheading : isOneLine (heading names).toList = true := by
    rw [heading]
    simp only [Text.toList_append, isOneLine_append, isOneLine_of_isName hoperation,
      Bool.and_true]
    decide
  show partsAt (CodePoint.char '\n') (joined [CodePoint.char '\n'] _) = _
  -- No piece holds a line end, so the join by line ends can be undone.
  rw [partsAt_joined]
  · rw [List.map_append, List.map_cons, List.map_map]
    rfl
  · exact List.cons_ne_nil _ _
  · intro piece hpiece
    obtain ⟨text, htext, rfl⟩ := List.mem_map.mp hpiece
    rw [List.mem_append, List.mem_cons, List.mem_map, List.mem_singleton] at htext
    rcases htext with (rfl | ⟨field, hfield, rfl⟩) | rfl
    · exact not_mem_of_isOneLine hheading
    · obtain ⟨halias, hwhere⟩ := hfields field hfield
      exact not_mem_of_isOneLine (isOneLine_line names haggregate halias hwhere)
    · decide

/-- The name of the operation is found in a query. The search looks through the whole text, but the
heading comes first, so nothing that the filters hold is found in its place. -/
theorem ofText?_document (names : FacetNames) (hoperation : isName names.operationName = true)
    (fields : List (Text × Expr)) :
    OperationName.ofText? (document names fields) = some names.operationName := by
  obtain ⟨rest, hrest⟩ : ∃ rest, (document names fields).toList
      = ("query " : Text).toList ++ names.operationName.toList ++ .char ' ' :: rest := by
    rw [document, joinedText]
    cases fields <;>
      exact ⟨_, by simp only [List.map_cons, List.map_nil, List.cons_append, List.nil_append,
        joined, Text.toList_append, List.append_assoc]; rfl⟩
  exact OperationName.ofText?_heading hoperation hrest

/-! ### What stands under an alias -/

variable {s : Selection} {options : FacetOptions} {field : Text × Expr}

/-- Under the alias of an option stands its where expression and no other, since an alias tells its
dimension and its position. -/
theorem eq_optionExpr_of_mem_fields {d : Dimension} {position : Nat} {row : Choice}
    (h : field ∈ fields s options) (halias : field.1 = d.aliasAt position)
    (hrow : (options d)[position]? = some row) : field.2 = optionExpr s d row := by
  rw [fields, List.mem_append, List.mem_flatMap, List.mem_singleton] at h
  -- The field belongs to an option, which the alias determines, or it is that of the total.
  rcases h with ⟨e, -, hfield⟩ | rfl
  · obtain ⟨i, hlt, rfl⟩ := List.mem_mapIdx.mp hfield
    obtain ⟨rfl, rfl⟩ := Dimension.aliasAt_inj halias
    rw [List.getElem?_eq_getElem hlt, Option.some.injEq] at hrow
    rw [← hrow]
  · exact absurd halias.symm (d.aliasAt_ne_total position)

/-- Under the alias of the total stands the where expression of the selection. -/
theorem eq_toExpr_of_mem_fields (h : field ∈ fields s options) (halias : field.1 = totalAlias) :
    field.2 = s.toExpr := by
  rw [fields, List.mem_append, List.mem_flatMap, List.mem_singleton] at h
  rcases h with ⟨e, -, hfield⟩ | rfl
  · obtain ⟨i, _, rfl⟩ := List.mem_mapIdx.mp hfield
    exact absurd halias (e.aliasAt_ne_total i)
  · rfl

/-- A value of a query is the `where` variable of the listings of a choice: whatever page is asked
for, the listing runs its document with a variable that is equal to the value. -/
def IsListed (choice : Value) (x : Term) : Prop :=
  ∀ {σ : Type} (service : Service σ) {number page offset : Value},
    number.atLeastZero = .ok page → page.times service.pageSize = .ok offset →
    ∃ w next, x.equals w = true ∧
      service.search choice number = (service.run (.text Document.profileSearch) (Value.ofFields
        [("where", w), ("limit", service.pageSize), ("offset", offset)])).andThen next

/-- A value of a query is the where clause that belongs under an alias: for an option the where
mapping of the other dimensions and the option, for the total what is listed, if anything is. -/
structure IsClause (choice : Value) (options : FacetOptions) (name : Text) (x : Term) : Prop where
  option : ∀ d position row, name = d.aliasAt position → (options d)[position]? = some row →
    x.equals (Expr.ofList (((Selection.coerce choice).without d).conditions
      ++ [d.isEqual (.text row.id)])).toWhere = true
  total : name = totalAlias →
    if (Selection.coerce choice).hasFilters then IsListed choice x else x = .object []

/-- Every line of a query has the where clause that belongs under its alias. The clause is compared
as a value, up to the kinds that JSON does not tell apart. -/
theorem isClause_of_mem_fields {choice : Value}
    (h : field ∈ fields (Selection.coerce choice) options)
    (hwhere : field.2.toWhere.IsExpressible) :
    IsClause choice options field.1 (Literal.ofValue field.2.toWhere).term := by
  refine ⟨fun d position row halias hrow => ?_, fun halias => ?_⟩
  · have hexpr := eq_optionExpr_of_mem_fields h halias hrow
    rw [optionExpr] at hexpr
    rw [← hexpr]
    exact hwhere.equals
  -- Without filters the selection has no conditions, and its clause is the empty object.
  · have hexpr := eq_toExpr_of_mem_fields h halias
    rw [hexpr] at hwhere ⊢
    split
    · rename_i hfilters
      intro σ service number page offset hpage hoffset
      exact ⟨_, _, hwhere.equals, service.search_of_hasFilters hfilters hpage hoffset⟩
    · rename_i hfilters
      have hnone := (Selection.conditions_eq_nil_iff _).mpr (Bool.eq_false_iff.mpr hfilters)
      rw [Selection.toExpr, hnone]
      rfl

/-- **A facet query reads back as what was meant.** Every raw value is taken for a catalog, and the
query of expressible values compiles over it. Its text is a heading, a line for each alias, in
order, and a closing brace. The aliases are those of the options and the total, and they are
distinct. Each line is read as the field that counts under its alias, with the where clause that
belongs there. The name of the operation is found in the text. -/
theorem readsBack (names : FacetNames) {choice catalog : Value}
    (hoperation : isName names.operationName = true)
    (haggregate : isName names.aggregateField = true) (hraw : catalog.IsRaw)
    (hchoice : ∀ d, ∀ v ∈ (Selection.coerce choice).values d, v.IsExpressible) :
    ∃ c q lines, Catalog.coerce catalog = .ok c ∧
      compile names (Selection.coerce choice) c = .ok q ∧ q.options = c.facetOptions ∧
      partsAt (CodePoint.char '\n') q.text.toList
        = (heading names).toList :: lines ++ [("\x7d" : Text).toList] ∧
      q.aliases = Dimension.all.flatMap (dimensionAliases q.options) ++ [totalAlias] ∧
      q.aliases.Nodup ∧
      List.Forall₂ (fun name text => ∃ x,
        readField? text = some (countField name names.aggregateField x) ∧
          IsClause choice q.options name x) q.aliases lines ∧
      OperationName.ofText? q.text = some names.operationName := by
  obtain ⟨c, hc⟩ := Catalog.exists_coerce_of_isRaw hraw
  have hfields := isExpressible_fields hchoice c.facetOptions
  refine ⟨c, _, _, hc, compile_of_writable names c fun d v hv => (hchoice d v hv).isWritable, rfl,
    partsAt_document names hoperation haggregate hfields, aliases_ofOptions names _ _,
    nodup_aliases names _ _, ?_, ofText?_document names hoperation _⟩
  -- Aliases and lines are two views of one list of fields, so they are related field by field.
  show List.Forall₂ _ ((fields (Selection.coerce choice) c.facetOptions).map (·.1)) _
  rw [List.forall₂_map_left_iff, List.forall₂_map_right_iff, List.forall₂_same]
  intro field hfield
  obtain ⟨halias, hwhere⟩ := hfields field hfield
  exact ⟨_, readField?_line names haggregate halias hwhere, isClause_of_mem_fields hfield hwhere⟩

/-- The main fact at a search and an id of an option that hold quotes, braces, a line end and the
start of a query, and at chosen values of several kinds. -/
theorem readsBack_spliced :
    let choice := Value.map [(.text "types", .list [.int 1, .list [.null, .text "a\\"]]),
      (.text "search", .text " \"\x7d\nquery x \x7b ")]
    let catalog := Value.map [(.text "profileTypes", .list [.map [(.text "id", .text "7\"\x7d"),
      (.text "name", .text "A")], .null])]
    let names : FacetNames := {}
    catalog.IsRaw ∧ (∀ d, ∀ v ∈ (Selection.coerce choice).values d, v.IsExpressible) ∧
      ∃ c q lines, Catalog.coerce catalog = .ok c ∧
        compile names (Selection.coerce choice) c = .ok q ∧
        partsAt (CodePoint.char '\n') q.text.toList
        = (heading names).toList :: lines ++ [("\x7d" : Text).toList] ∧
        List.Forall₂ (fun name text => ∃ x,
          readField? text = some (countField name names.aggregateField x) ∧
            IsClause choice q.options name x) q.aliases lines ∧
        OperationName.ofText? q.text = some "GetProfileFacetCounts" := by
  intro choice catalog names
  have hraw : catalog.IsRaw := by
    refine .map (fun entry hentry => ?_) fun entry hentry => ?_
    · rw [List.mem_singleton.mp hentry]
      exact .text _
    · rw [List.mem_singleton.mp hentry]
      refine .list fun row hrow => ?_
      rw [List.mem_cons, List.mem_singleton] at hrow
      rcases hrow with rfl | rfl
      · refine .map (fun entry hentry => ?_) fun entry hentry => ?_ <;>
          (rw [List.mem_cons, List.mem_singleton] at hentry
           rcases hentry with rfl | rfl <;> exact .text _)
      · exact .null
  -- The chosen values are checked one by one; only the types hold any.
  have hchoice : ∀ d, ∀ v ∈ (Selection.coerce choice).values d, v.IsExpressible := by
    intro d v hv
    cases d with
    | types =>
        have hmem : v ∈ [.int 1, .list [.null, .text "a\\"]] := hv
        rw [List.mem_cons, List.mem_singleton] at hmem
        rcases hmem with rfl | rfl
        · exact .int 1
        · refine .list fun item hitem => ?_
          rw [List.mem_cons, List.mem_singleton] at hitem
          rcases hitem with rfl | rfl
          · exact .null
          · exact .text _
    | sectors => cases hv
    | statuses => cases hv
    | tags => cases hv
  obtain ⟨c, q, lines, hc, hq, -, hparts, -, -, hlines, hname⟩ :=
    readsBack names (by decide) (by decide) hraw hchoice
  exact ⟨hraw, hchoice, c, q, lines, hc, hq, hparts, hlines, hname⟩

end FacetQuery

end FacetSearch
