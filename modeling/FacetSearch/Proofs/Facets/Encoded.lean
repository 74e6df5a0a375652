import FacetSearch.Proofs.Facets.Aliases
import FacetSearch.Proofs.Json.Written
import FacetSearch.Proofs.Literal.Meaning
import FacetSearch.Proofs.Selection.Expressible
import FacetSearch.Proofs.Text.Unicode

/-!
# `FacetSearch.Proofs.Facets.Encoded`: queries that can be encoded

A query is sent in UTF-8, which has no surrogates, while a chosen value, a search or the identifier
of an option may have some. A selection is plain when its chosen values are JSON and no surrogate
stands in them or in the search (`Selection.IsPlain`). The where mapping of a plain selection is
JSON without surrogates (`Selection.isJson_toExpr`).

What is written for such a mapping has no surrogate either, and the rest of a query are names and
the identifiers of options. So a query has no surrogate when its selection is plain and when its
names and its options have none: this is `FacetQuery.isUnicode_text`.
-/

set_option autoImplicit false

namespace FacetSearch

/-- The names of the query language are Unicode: a name is made of letters, digits and underscores,
and a surrogate is none of these. -/
theorem isUnicode_of_isName {name : Text} (h : Grammar.isName name = true) : name.IsUnicode := by
  intro point hpoint
  have hchar := List.all_eq_true.mp (Grammar.all_of_isName h) point hpoint
  cases point with
  | char c => exact ⟨c, rfl⟩
  | surrogate offset => cases hchar

/-! ### Where mappings -/

/-- A mapping with one entry is JSON when its value is. Where mappings are nested out of such
mappings, one for each step of a path. -/
theorem Value.isJson_single {P : Text → Prop} {name : Text} (hname : P name) {value : Value}
    (h : value.IsJson P) : (Value.map [(.text name, value)]).IsJson P :=
  @IsJson.object P [(name, value)] (List.nodup_singleton name) (List.forall_mem_singleton.mpr hname)
    (List.forall_mem_singleton.mpr h)

/-- Being JSON without surrogates spreads. -/
theorem Value.spreads_isJson : Spreads (IsJson Text.IsUnicode) where
  list h := .list h
  empty := @IsJson.object _ [] List.nodup_nil (List.forall_mem_nil _) (List.forall_mem_nil _)
  single hname h := isJson_single (isUnicode_of_isName hname) h

/-- A selection that can be sent: its chosen values are JSON, and neither they nor the search have a
surrogate. -/
structure Selection.IsPlain (s : Selection) : Prop where
  values : ∀ d, ∀ v ∈ s.values d, v.IsJson Text.IsUnicode
  search : ∀ search, s.normalizedSearch = some search → search.IsUnicode

/-- The where mapping of a plain selection is JSON without surrogates, so its text can be
encoded. -/
theorem Selection.isJson_toExpr {s : Selection} (h : s.IsPlain) :
    s.toExpr.toWhere.IsJson Text.IsUnicode :=
  Value.spreads_isJson.toExpr h.values fun search hsearch => .text (h.search search hsearch)

/-- The where mapping of an option is JSON over a plain selection. The id of the option is the one
part that comes from the catalog and not from the selection. -/
theorem FacetQuery.isJson_optionExpr {s : Selection} (h : s.IsPlain) (d : Dimension) {row : Choice}
    (hrow : row.id.IsUnicode) : (optionExpr s d row).toWhere.IsJson Text.IsUnicode := by
  refine Value.spreads_isJson.ofList fun e he => ?_
  rcases List.mem_append.mp he with hmem | hmem
  · -- The search stays when a dimension is left out.
    have hsearch : (s.without d).normalizedSearch = s.normalizedSearch := by cases d <;> rfl
    exact Value.spreads_isJson.conditions (Selection.forall_values_excluding h.values (some d))
      (fun search hnormalized => .text (h.search search (hsearch ▸ hnormalized))) e hmem
  · rw [List.mem_singleton.mp hmem]
    exact Value.spreads_isJson.field d.all_isName_pathSteps (by decide) (.text hrow)

/-! ### Literals -/

namespace Literal

open CodePoint

/-- The text of a list has no surrogate when those of its items have none: the brackets and the
commas between the items are characters. -/
theorem areChars_list {items : List Literal} (h : ∀ x ∈ items, AreChars x.write) :
    AreChars (write (.list items)) := by
  -- On the items, as the writer goes through them.
  have hitems : ∀ piece ∈ writeItems items, AreChars piece := by
    induction items with
    | nil => exact List.forall_mem_nil _
    | cons x xs ih =>
        obtain ⟨hx, hxs⟩ := List.forall_mem_cons.mp h
        exact List.forall_mem_cons.mpr ⟨hx, ih hxs⟩
  have hjoined := areChars_joined (areChars_map [',', ' ']) hitems
  simpa [write, listText, commaJoined] using hjoined

/-- The text of an object has no surrogate when the names and the texts of its fields have none. -/
theorem areChars_object {fields : List (Text × Literal)}
    (h : ∀ field ∈ fields, field.1.IsUnicode ∧ AreChars field.2.write) :
    AreChars (write (.object fields)) := by
  have hfields : ∀ piece ∈ writeFields fields, AreChars piece := by
    induction fields with
    | nil => exact List.forall_mem_nil _
    | cons field rest ih =>
        obtain ⟨⟨hname, hx⟩, hrest⟩ := List.forall_mem_cons.mp h
        refine List.forall_mem_cons.mpr ⟨?_, ih hrest⟩
        simpa using ⟨hname, hx⟩
  have hjoined := areChars_joined (areChars_map [',', ' ']) hfields
  -- An object without fields is written as two braces, apart from the others.
  cases hpieces : writeFields fields with
  | nil => simp [write, hpieces, objectText]
  | cons piece others =>
      rw [hpieces] at hjoined
      simpa [write, hpieces, objectText, commaJoined] using hjoined

end Literal

/-- A value without surrogates is written without any. By induction on the value: a text keeps its
characters or is escaped, and escapes are characters as well. -/
theorem Value.IsJson.isUnicode_literalText {v : Value} (h : v.IsJson Text.IsUnicode) :
    v.literalText.IsUnicode := by
  show CodePoint.AreChars (Literal.ofValueIn false v).write
  induction h with
  | null => exact CodePoint.areChars_map _
  | bool => exact CodePoint.areChars_map _
  | int => exact CodePoint.areChars_map _
  | float => exact CodePoint.areChars_map _
  | text hcontent => exact CodePoint.areChars_jsonQuoted hcontent
  | list _ ih =>
      rw [Literal.ofValueIn, Literal.ofItems_eq]
      exact Literal.areChars_list (List.forall_mem_map.mpr ih)
  | object _ hnames _ ih =>
      rw [Literal.ofValueIn_ofFields]
      exact Literal.areChars_object
        (List.forall_mem_map.mpr fun field hfield => ⟨hnames field hfield, ih field hfield⟩)

/-! ### Queries -/

namespace FacetQuery

variable {names : FacetNames} {s : Selection}

/-- The fields of a query have Unicode aliases, and their where mappings are JSON. -/
theorem isJson_fields (h : s.IsPlain) {options : FacetOptions}
    (hids : ∀ d, ∀ row ∈ options d, row.id.IsUnicode) :
    ∀ field ∈ fields s options, field.1.IsUnicode ∧ field.2.toWhere.IsJson Text.IsUnicode := by
  intro field hfield
  rw [fields, List.mem_append, List.mem_flatMap, List.mem_singleton] at hfield
  rcases hfield with ⟨d, -, hd⟩ | rfl
  · obtain ⟨position, hlt, rfl⟩ := List.mem_mapIdx.mp hd
    exact ⟨isUnicode_of_isName (d.isName_aliasAt position),
      isJson_optionExpr h d (hids d _ (List.getElem_mem hlt))⟩
  · exact ⟨Text.isUnicode_ofString _, Selection.isJson_toExpr h⟩

/-- The text of a query is Unicode when its names and its fields are. The rest of the text is fixed
and made of characters. -/
theorem isUnicode_document (hoperation : names.operationName.IsUnicode)
    (haggregate : names.aggregateField.IsUnicode) {fields : List (Text × Expr)}
    (hfields : ∀ field ∈ fields, field.1.IsUnicode ∧ field.2.whereText.IsUnicode) :
    (document names fields).IsUnicode := by
  refine CodePoint.areChars_joined (CodePoint.areChars_map ['\n']) (List.forall_mem_map.mpr ?_)
  -- Three kinds of pieces: the heading, the lines of the fields, the closing brace.
  simp only [List.forall_mem_append, List.forall_mem_cons, List.forall_mem_map]
  refine ⟨⟨?_, fun field hfield => ?_⟩, Text.isUnicode_ofString _, List.forall_mem_nil _⟩
  · show Text.IsUnicode _
    simp [hoperation]
  · obtain ⟨halias, hwhere⟩ := hfields field hfield
    show Text.IsUnicode _
    simp [line, halias, haggregate, hwhere]

/-- **A query of a plain selection can be encoded,** when its names and the identifiers of the
options that it counts can. -/
theorem isUnicode_text (h : s.IsPlain) (hoperation : names.operationName.IsUnicode)
    (haggregate : names.aggregateField.IsUnicode) {c : Catalog}
    (hids : ∀ d, ∀ row ∈ c.facetOptions d, row.id.IsUnicode) {q : FacetQuery}
    (hcompile : compile names s c = .ok q) : q.text.IsUnicode := by
  rw [compile] at hcompile
  split at hcompile
  · rw [← Except.ok.inj hcompile]
    refine isUnicode_document hoperation haggregate fun field hfield => ?_
    obtain ⟨halias, hwhere⟩ := isJson_fields h hids field hfield
    exact ⟨halias, hwhere.isUnicode_literalText⟩
  · cases hcompile

end FacetQuery

end FacetSearch
