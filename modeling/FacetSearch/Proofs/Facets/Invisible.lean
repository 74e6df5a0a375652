import FacetSearch.Facets.Decode
import FacetSearch.Proofs.Catalog.Tables

/-!
# `FacetSearch.Proofs.Facets.Invisible`: bad and blank rows are invisible

A row of a table shows nothing when it is no option or when its name is blank. The first kind is
left out where the catalog is read, the second where the options are numbered.
`Catalog.Table.SameVisible` relates two lists of rows that differ by rows of these kinds alone.

The main fact `coerce_raw` is about payloads that hold no record. Such a payload is taken for a
catalog, and each of its tables has the options that its rows are, in their order. A table looks at
nothing but what stands under its own names. When a second payload differs from the first by rows
that show nothing in the tables of the dimensions, and in any way in the others, every selection
compiles to the same query over both, and every reply to it decodes to the same table.

The last part goes through the named options alone: they are the same (`SameVisible.named_eq`), and
a query looks at nothing else of its catalog (`FacetQuery.compile_of_facetOptions`).
-/

set_option autoImplicit false

namespace FacetSearch

namespace Catalog.Table

/-- A row that shows nothing: it is no option, or its name is blank. -/
def isInvisible (t : Table) (row : Value) : Bool := (t.row? row).all Choice.isPlaceholder

/-- Lists of rows that differ by inserted and removed rows that show nothing. -/
inductive SameVisible (t : Table) : List Value → List Value → Prop
  | nil : SameVisible t [] []
  | keep (row : Value) {rows others : List Value} (h : SameVisible t rows others) :
      SameVisible t (row :: rows) (row :: others)
  | insert {row : Value} (hrow : t.isInvisible row = true) {rows others : List Value}
      (h : SameVisible t rows others) : SameVisible t rows (row :: others)
  | remove {row : Value} (hrow : t.isInvisible row = true) {rows others : List Value}
      (h : SameVisible t rows others) : SameVisible t (row :: rows) others

/-- The options with a name among rows. -/
def named (t : Table) (rows : List Value) : List Choice :=
  (rows.filterMap t.row?).filter fun row => !row.isPlaceholder

/-- A row that shows nothing adds no option with a name. Either it is dropped as no option, or it is
an option that the filter for names drops. -/
theorem named_cons_of_isInvisible {t : Table} {row : Value} (h : t.isInvisible row = true)
    (rows : List Value) : t.named (row :: rows) = t.named rows := by
  rw [isInvisible] at h
  rw [named, named]
  cases hrow : t.row? row with
  | none => rw [List.filterMap_cons_none hrow]
  | some option =>
      rw [hrow, Option.all_some] at h
      rw [List.filterMap_cons_some hrow, List.filter_cons_of_neg (by simp [h])]

/-- Rows that differ by rows that show nothing have the same options with a name. By induction on
how they differ, with one case for each way. -/
theorem SameVisible.named_eq {t : Table} {rows others : List Value}
    (h : t.SameVisible rows others) : t.named rows = t.named others := by
  induction h with
  | nil => rfl
  | keep row _ ih =>
      -- The row adds at most one option, in front of both lists.
      rw [named, named] at ih ⊢
      cases hrow : t.row? row with
      | none => rw [List.filterMap_cons_none hrow, List.filterMap_cons_none hrow, ih]
      | some option =>
          rw [List.filterMap_cons_some hrow, List.filterMap_cons_some hrow, List.filter_cons,
            List.filter_cons, ih]
  | insert hrow _ ih => rw [named_cons_of_isInvisible hrow, ih]
  | remove hrow _ ih => rw [named_cons_of_isInvisible hrow, ih]

end Catalog.Table

/-- A query looks at nothing of a catalog but its options with a name, dimension by dimension. -/
theorem FacetQuery.compile_of_facetOptions (names : FacetNames) (s : Selection) {c d : Catalog}
    (h : c.facetOptions = d.facetOptions) : compile names s c = compile names s d := by
  rw [compile, compile, h]

namespace Catalog

/-- The facet options of a dimension are the options with a name in its table, read off the rows of
the payload. This joins the two places in which rows are dropped. -/
theorem facetOptions_offered (entries : List (Value × Value)) (d : Dimension) :
    (ofRows (offered (.map entries))).facetOptions d = d.table.named (d.table.given entries) := by
  rw [facetOptions, options_eq_rows, rows_ofRows]
  rfl

/-- A raw payload is taken for the catalog of the options that it gives. It cannot fail, since the
one failure needs an option that is already a record. -/
theorem coerce_eq_of_isRaw {payload : Value} (h : payload.IsRaw) :
    coerce payload = .ok (ofRows (offered payload)) :=
  (coerce_eq_ok_iff payload _).mpr ⟨hasPlainTag_of_isRaw h, rfl⟩

/-- **Bad and blank rows are invisible.** A payload that holds no record is taken for a catalog
whose tables have, in their order, the options that the rows of the payload are.

* What stands under the names of a table decides that table alone.
* A payload that differs by rows that show nothing in the tables of the dimensions, and in any way
  in the others, gives the same query with every selection, and every reply to that decodes to the
  same table. -/
theorem coerce_raw {entries : List (Value × Value)} (h : (Value.map entries).IsRaw) :
    ∃ c, coerce (.map entries) = .ok c ∧
      (∀ t, c.rows t = (t.given entries).filterMap t.row?) ∧
      ∀ others : List (Value × Value), (Value.map others).IsRaw →
        ∃ c', coerce (.map others) = .ok c' ∧
          (∀ t : Table, Value.get? others t.names.1 = Value.get? entries t.names.1 →
            Value.get? others t.names.2 = Value.get? entries t.names.2 → c'.rows t = c.rows t) ∧
          ((∀ d : Dimension, d.table.SameVisible (d.table.given entries) (d.table.given others)) →
            ∀ names choice,
              FacetQuery.compile names (Selection.coerce choice) c'
                = FacetQuery.compile names (Selection.coerce choice) c ∧
              ∀ raw, (FacetQuery.compile names (Selection.coerce choice) c').bind (·.decode raw)
                = (FacetQuery.compile names (Selection.coerce choice) c).bind (·.decode raw)) := by
  refine ⟨_, coerce_eq_of_isRaw h, fun t => rows_ofRows _ t, fun others hothers => ?_⟩
  refine ⟨_, coerce_eq_of_isRaw hothers, fun t hfirst hsecond => ?_, fun hsame names choice => ?_⟩
  -- A table reads its two names and nothing else of the payload.
  · rw [rows_ofRows, rows_ofRows, offered, offered, Table.read, Table.read, Table.given,
      Table.given, hfirst, hsecond]
  -- The tables may differ; their options with a name do not, and these are all a query sees.
  · have hoptions : (ofRows (offered (.map others))).facetOptions
        = (ofRows (offered (.map entries))).facetOptions := by
      funext d
      rw [facetOptions_offered, facetOptions_offered, (hsame d).named_eq]
    have hquery := FacetQuery.compile_of_facetOptions names (Selection.coerce choice) hoptions
    exact ⟨hquery, fun raw => by rw [hquery]⟩

/-- The main fact at two payloads that share an option. The first has a flag for an identifier and a
blank name besides, and a tag with a kind that is no option. The second writes the other name of the
table, and has null among the rows and a number for a table. -/
theorem coerce_raw_two_spellings :
    let option := Value.map [(.text "id", .int 1), (.text "name", .text "A")]
    let flag := Value.map [(.text "id", .bool true), (.text "name", .text "B")]
    let blank := Value.map [(.text "id", .int 2), (.text "name", .text " ")]
    let tag := Value.map [(.text "id", .text "t"), (.text "name", .text "T"),
      (.text "tagType", .int 5)]
    let entries := [(Value.text "profileTypes", Value.list [flag, option, blank]),
      (.text "tags", .list [tag])]
    let others := [(Value.text "profile_types", Value.list [.null, option]),
      (.text "tags", .list [tag]), (.text "assetTypes", .int 7)]
    ∃ c c', coerce (.map entries) = .ok c ∧ coerce (.map others) = .ok c' ∧
      c.rows .profileTypes = [.plain "1" (some "A"), .plain "2" (some " ")] ∧
      c.rows .tags = [.tag "t" (some "T") none] ∧ c'.rows .tags = c.rows .tags ∧
      FacetQuery.compile {} {} c' = FacetQuery.compile {} {} c := by
  intro option flag blank tag entries others
  obtain ⟨c, hc, hrows, hothers⟩ := coerce_raw (show (Value.map entries).IsRaw by
    simp [entries, option, flag, blank, tag])
  obtain ⟨c', hc', hsame, hquery⟩ := hothers others (by simp [others, option, tag])
  have hvisible : ∀ d : Dimension, d.table.SameVisible (d.table.given entries)
      (d.table.given others) := by
    intro d
    -- Each table is matched row by row: null is inserted, the flag and the blank are removed.
    cases d with
    | types =>
        exact .insert (by decide) (.remove (by decide) (.keep option (.remove (by decide) .nil)))
    | sectors => exact .nil
    | statuses => exact .nil
    | tags => exact .keep tag .nil
  exact ⟨c, c', hc, hc', (hrows .profileTypes).trans rfl, (hrows .tags).trans rfl,
    hsame .tags rfl rfl, (hquery hvisible {} .null).1⟩

end Catalog

end FacetSearch
