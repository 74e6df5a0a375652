import FacetSearch.Proofs.Facets.Aliases
import FacetSearch.Proofs.Facets.Counts
import FacetSearch.Proofs.Selection.Agreement
import FacetSearch.Proofs.Selection.Spelling

/-!
# `FacetSearch.Proofs.Facets.SameLine`: which choices give the same query

Two choices are compared through the queries that they give over one catalog. The main fact
`sameLine_iff` decides it line by line. The line of the total is the same if and only if the active
filters are equal. The line of an option is the same if and only if the active filters other than
those of its own dimension are equal. So the choice in a dimension never influences the lines of the
dimension, and any other difference changes every line of it. How the same is spelled makes no
difference at all.

Lines with one alias differ in their where clauses alone (`line_inj`), and where clauses are
compared by `Selection.whereText_eq_iff`.
-/

set_option autoImplicit false

namespace FacetSearch.FacetQuery

variable {names : FacetNames} {s t : Selection} {options : FacetOptions}

/-- The line under an alias in the query of a selection. -/
def lineUnder (names : FacetNames) (s : Selection) (options : FacetOptions) (name : Text) :
    Option Text :=
  ((fields s options).find? fun field => field.1 == name).map (line names)

/-- The text of a query is its heading, one line for each alias, in order, and a closing brace. -/
def IsMadeOf (names : FacetNames) (q : FacetQuery) (lineOf : Text → Option Text) : Prop :=
  ∃ lines : List Text, q.aliases.map lineOf = lines.map some ∧
    q.text = joinedText "\n" (heading names :: lines ++ [("\x7d" : Text)])

/-- A field is found under its alias, with its own line. Aliases are distinct, so the search for the
first one finds this one. -/
theorem lineUnder_of_mem {field : Text × Expr} (h : field ∈ fields s options) :
    lineUnder names s options field.1 = some (line names field) := by
  -- No alias occurs twice, so the first field with an alias is the only one.
  have hfind : ∀ rest : List (Text × Expr), (rest.map (·.1)).Nodup → field ∈ rest →
      rest.find? (fun other => other.1 == field.1) = some field := by
    intro rest hnodup hmem
    induction rest with
    | nil => cases hmem
    | cons first rest ih =>
        rw [List.map_cons, List.nodup_cons] at hnodup
        rcases List.mem_cons.mp hmem with rfl | hrest
        · rw [List.find?_cons, beq_self_eq_true]
        · have hne : first.1 ≠ field.1 := fun heq => hnodup.1 (heq ▸ List.mem_map_of_mem hrest)
          rw [List.find?_cons, beq_eq_false_iff_ne.mpr hne]
          exact ih hnodup.2 hrest
  rw [lineUnder, hfind _ (nodup_aliases names s options) h]
  rfl

/-- A query is made of the lines under its aliases, so two queries can be compared line by line. -/
theorem isMadeOf_ofOptions (names : FacetNames) (s : Selection) (options : FacetOptions) :
    (ofOptions names s options).IsMadeOf names (lineUnder names s options) := by
  refine ⟨(fields s options).map (line names), ?_, rfl⟩
  show ((fields s options).map (·.1)).map (lineUnder names s options) = _
  rw [List.map_map, List.map_map]
  exact List.map_congr_left fun field hfield => lineUnder_of_mem hfield

/-- Lines with one alias are the same when their where clauses are: everything else on a line is
fixed by the alias and the names of the query. -/
theorem line_inj (name : Text) {e f : Expr} :
    line names (name, e) = line names (name, f) ↔ e.whereText = f.whereText := by
  rw [line, line, Text.append_left_inj, Text.append_right_inj]

/-- The lines under an alias are the same when the where clauses are. -/
theorem lineUnder_eq_iff {name : Text} {e f : Expr} (he : (name, e) ∈ fields s options)
    (hf : (name, f) ∈ fields t options) :
    lineUnder names s options name = lineUnder names t options name
      ↔ e.whereText = f.whereText := by
  rw [lineUnder_of_mem he, lineUnder_of_mem hf, Option.some.injEq, line_inj]

variable (hs : ∀ d, ∀ v ∈ s.values d, v.text?.isSome) (ht : ∀ d, ∀ v ∈ t.values d, v.text?.isSome)
include hs ht

/-- The line of the total is the same when the active filters are equal, and only then. -/
theorem lineUnder_total_iff :
    lineUnder names s options totalAlias = lineUnder names t options totalAlias
      ↔ s.AgreesOff none t := by
  rw [lineUnder_eq_iff (total_mem_fields s options) (total_mem_fields t options)]
  have hnil : ∀ e ∈ ([] : List Expr), ∃ d id, e = Dimension.isEqual d (.text id) :=
    fun e he => absurd he List.not_mem_nil
  have hiff := Selection.whereText_eq_iff hs ht none hnil
  rw [List.append_nil, List.append_nil] at hiff
  exact hiff

/-- The line of an option is the same when the active filters off its dimension are equal, and only
then. Both lines name the id of the option, so that it cannot make a difference. -/
theorem lineUnder_option_iff {d : Dimension} {position : Nat} {row : Choice}
    (hrow : (options d)[position]? = some row) :
    lineUnder names s options (d.aliasAt position) = lineUnder names t options (d.aliasAt position)
      ↔ s.AgreesOff (some d) t := by
  rw [lineUnder_eq_iff (mem_fields_of_option hrow) (mem_fields_of_option hrow)]
  refine Selection.whereText_eq_iff hs ht (some d) fun e he => ?_
  exact ⟨d, row.id, List.mem_singleton.mp he⟩

omit hs ht

/-- Selections with the same values and the same search give the same query. A field that is missing
and one that is empty have the same values, and so give the same text. -/
theorem compile_congr (hvalues : ∀ d, s.values d = t.values d)
    (hsearch : s.normalizedSearch = t.normalizedSearch) (c : Catalog) :
    compile names s c = compile names t c := by
  -- The conditions of a selection are made of its values and its search alone.
  have hconditions : ∀ u w : Selection, (∀ d, u.values d = w.values d) →
      u.normalizedSearch = w.normalizedSearch → u.conditions = w.conditions := by
    intro u w hvalues hsearch
    have hdimension : u.dimensionCondition? = w.dimensionCondition? := by
      funext d
      rw [Selection.dimensionCondition?, Selection.dimensionCondition?, hvalues]
    rw [Selection.conditions, Selection.conditions, hdimension, Selection.searchCondition?,
      Selection.searchCondition?, hsearch]
  -- An option sees the other dimensions, whose values are the same in both selections.
  have hwithout : ∀ d, (s.without d).conditions = (t.without d).conditions := by
    intro d
    refine hconditions _ _ (fun e => ?_) ?_
    · rw [Selection.values_without, Selection.values_without, hvalues]
    · have hnormalized : ∀ u : Selection, (u.without d).normalizedSearch = u.normalizedSearch :=
        fun u => u.normalizedSearch_excluding (some d)
      rw [hnormalized, hnormalized, hsearch]
  have htotal : s.toExpr = t.toExpr := congrArg Expr.ofList (hconditions s t hvalues hsearch)
  have hoption : optionExpr s = optionExpr t := by
    funext d row
    rw [optionExpr, optionExpr, hwithout]
  have hdimension : dimensionFields s = dimensionFields t := by
    funext options d
    rw [dimensionFields, dimensionFields, hoption]
  rw [compile, compile, ofOptions, ofOptions, fields, fields, htotal, hdimension]

/-- **Which choices give the same query.** Two choices of texts are compiled over one catalog. Both
queries are made of the lines under their aliases, which are the same aliases. The lines of the
total are equal if and only if the active filters are. The lines of an option are equal if and only
if the active filters off its dimension are. Choices that are the same in every dimension and search
for the same, however they are spelled, give the same query. -/
theorem sameLine_iff (names : FacetNames) (c : Catalog) {choice other : Value}
    (hchoice : ∀ d, ∀ v ∈ (Selection.coerce choice).values d, v.text?.isSome)
    (hother : ∀ d, ∀ v ∈ (Selection.coerce other).values d, v.text?.isSome) :
    ∃ q q', compile names (Selection.coerce choice) c = .ok q ∧
      compile names (Selection.coerce other) c = .ok q' ∧
      q.IsMadeOf names (lineUnder names (Selection.coerce choice) c.facetOptions) ∧
      q'.IsMadeOf names (lineUnder names (Selection.coerce other) c.facetOptions) ∧
      q.aliases = Dimension.all.flatMap (dimensionAliases c.facetOptions) ++ [totalAlias] ∧
      q'.aliases = q.aliases ∧
      (lineUnder names (Selection.coerce choice) c.facetOptions totalAlias
          = lineUnder names (Selection.coerce other) c.facetOptions totalAlias
        ↔ (Selection.coerce choice).AgreesOff none (Selection.coerce other)) ∧
      (∀ d position row, (c.facetOptions d)[position]? = some row →
        (lineUnder names (Selection.coerce choice) c.facetOptions (d.aliasAt position)
            = lineUnder names (Selection.coerce other) c.facetOptions (d.aliasAt position)
          ↔ (Selection.coerce choice).AgreesOff (some d) (Selection.coerce other))) ∧
      ((∀ d, SameChoice (choice.givenIn d) (other.givenIn d)) →
        SameSearch choice.givenSearch other.givenSearch → q = q') := by
  -- Texts can be written, so both choices compile.
  have hcompile : ∀ s : Selection, (∀ d, ∀ v ∈ s.values d, v.text?.isSome) →
      compile names s c = .ok (ofOptions names s c.facetOptions) := fun s hs =>
    compile_of_writable names c fun d v hv =>
      (Value.isExpressible_of_text? (hs d v hv)).isWritable
  refine ⟨_, _, hcompile _ hchoice, hcompile _ hother, isMadeOf_ofOptions names _ _,
    isMadeOf_ofOptions names _ _, aliases_ofOptions names _ _, ?_,
    lineUnder_total_iff hchoice hother,
    fun d position row hrow => lineUnder_option_iff hchoice hother hrow,
    fun hvalues hsearch => ?_⟩
  · rw [aliases_ofOptions, aliases_ofOptions]
  · have hsame : compile names (Selection.coerce choice) c
        = compile names (Selection.coerce other) c :=
      compile_congr (fun d => Selection.values_eq_of_sameChoice (hvalues d))
        (Selection.normalizedSearch_eq_of_sameSearch hsearch) c
    rw [hcompile _ hchoice, hcompile _ hother] at hsame
    exact Except.ok.inj hsame

/-- The main fact at two choices that differ in the types alone, one of which spells out that it
chooses no sector and surrounds its search with blanks. The line of a type is the same for both. The
line of a sector and the line of the total are not. -/
theorem sameLine_iff_other_type :
    let choice := Value.map [(.text "types", .list [.text "1"]), (.text "search", .text "a")]
    let other := Value.map [(.text "types", .list [.text "2", .text "1"]),
      (.text "sectors", .int 5), (.text "search", .text " a\t")]
    let c : Catalog :=
      { profileTypes := [.plain "1" (some "A")], profileSectors := [.plain "2" (some "B")] }
    let lineOf := fun choice => lineUnder {} (Selection.coerce choice) c.facetOptions
    (∀ d, ∀ v ∈ (Selection.coerce choice).values d, v.text?.isSome) ∧
      (∀ d, ∀ v ∈ (Selection.coerce other).values d, v.text?.isSome) ∧
      lineOf choice "type_0" = lineOf other "type_0" ∧
      lineOf choice "sector_0" ≠ lineOf other "sector_0" ∧
      lineOf choice totalAlias ≠ lineOf other totalAlias := by
  intro choice other c lineOf
  have hchoice : ∀ d, ∀ v ∈ (Selection.coerce choice).values d, v.text?.isSome := by
    intro d
    cases d <;> decide
  have hother : ∀ d, ∀ v ∈ (Selection.coerce other).values d, v.text?.isSome := by
    intro d
    cases d <;> decide
  obtain ⟨q, q', -, -, -, -, -, -, htotal, hoption, -⟩ := sameLine_iff {} c hchoice hother
  -- The two choose different types, and that is the only difference that counts.
  have hdiffer : (Selection.coerce choice).texts .types
      ≠ (Selection.coerce other).texts .types := by
    decide
  refine ⟨hchoice, hother, ?_, fun heq => ?_, fun heq => ?_⟩
  · refine (hoption .types 0 (.plain "1" (some "A")) rfl).mpr ⟨fun d hd => ?_, by decide⟩
    cases d with
    | types => exact absurd rfl hd
    | sectors => decide
    | statuses => decide
    | tags => decide
  · have hagree := (hoption .sectors 0 (.plain "2" (some "B")) rfl).mp heq
    exact hdiffer (hagree.texts .types (by decide))
  · exact hdiffer ((htotal.mp heq).texts .types (by decide))

end FacetSearch.FacetQuery
