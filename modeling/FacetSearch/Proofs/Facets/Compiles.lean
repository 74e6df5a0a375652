import FacetSearch.Proofs.Catalog.Tables
import FacetSearch.Proofs.Facets.Decoded
import FacetSearch.Proofs.Facets.Writable
import FacetSearch.Proofs.Selection.Spelling

/-!
# `FacetSearch.Proofs.Facets.Compiles`: which selections compile over which catalogs

Anything can be given for a selection and for a catalog. The main fact `compile_any` says when a
query comes of it. Two things are in the way and no others. A payload with a plain option among its
tags, as a record, is no catalog. A chosen value that has no literal, as a set that holds a record
inside of a record, cannot be written. Where a query comes of it, it counts every option with a name
that the payload gives for a dimension, under an alias of its own, whatever other rows there are.

Neither occurs among values that hold no record, so these always compile (`compile_raw`).

Integers are assumed to be short enough to print, those among the chosen values and those that are
labels of rows: `integerText` writes every one.
-/

set_option autoImplicit false

namespace FacetSearch

open Value

/-- A value that holds no record can be written. What cannot be written is a set inside of a record,
so the induction never comes to the case that fails. -/
theorem Value.IsRaw.isWritable {v : Value} (h : v.IsRaw) : v.isWritable = true := by
  rw [Value.isWritable]
  induction h with
  | list _ ih =>
      rw [isWritableIn, areWritable_eq]
      exact List.all_eq_true.mpr ih
  | tuple _ ih =>
      rw [isWritableIn, areWritable_eq]
      exact List.all_eq_true.mpr ih
  | set _ ih =>
      -- Only inside of a record does it matter what a set holds.
      rw [isWritableIn, Bool.false_and, Bool.not_false, Bool.true_and, areWritable_eq]
      exact List.all_eq_true.mpr ih
  | map _ _ _ ih =>
      rw [isWritableIn, areEntriesWritable_eq]
      exact List.all_eq_true.mpr ih
  | _ => rfl

/-- What a raw value gives in a dimension is raw, since it stands under a key of a raw mapping. -/
theorem Value.IsRaw.of_givenIn {choice given : Value} (h : choice.IsRaw) {d : Dimension}
    (hgiven : choice.givenIn d = some given) : given.IsRaw := by
  -- Only a mapping gives anything; a selection does too, but is a record.
  cases h with
  | map hkeys hvalues => exact (IsRaw.map hkeys hvalues).of_get? hgiven
  | _ => cases hgiven

/-- The values chosen in a raw value are raw: taking a value for a selection only picks items out of
it. -/
theorem Selection.isRaw_of_mem_values {choice : Value} (h : choice.IsRaw) {d : Dimension}
    {v : Value} (hv : v ∈ (coerce choice).values d) : v.IsRaw := by
  rw [values_coerce] at hv
  cases hgiven : choice.givenIn d with
  | none =>
      rw [hgiven] at hv
      cases hv
  | some given =>
      rw [hgiven] at hv
      exact (h.of_givenIn hgiven).of_mem_sequence hv

namespace FacetQuery

/-- A selection compiles, over any catalog, when its chosen values can be written. The catalog has
no say in it, since labels of options are texts. -/
theorem compile_eq_ok_iff (names : FacetNames) (s : Selection) (c : Catalog) (q : FacetQuery) :
    compile names s c = .ok q
      ↔ (∀ d, ∀ v ∈ s.values d, v.isWritable = true) ∧ q = ofOptions names s c.facetOptions := by
  constructor
  · intro hcompile
    rw [compile] at hcompile
    -- The check is one flag for the whole selection; it is taken apart value by value.
    split at hcompile
    · rename_i hwritable
      rw [Selection.isWritable_toExpr, List.all_eq_true] at hwritable
      exact ⟨fun d => List.all_eq_true.mp (hwritable d d.mem_all),
        (Except.ok.inj hcompile).symm⟩
    · cases hcompile
  · rintro ⟨hwritable, rfl⟩
    exact compile_of_writable names c hwritable

/-- Every option of a query is counted under an alias, the one of a position at which it stands. -/
theorem exists_alias_of_mem (names : FacetNames) (s : Selection) {options : FacetOptions}
    {d : Dimension} {option : Choice} (h : option ∈ options d) :
    ∃ position, (options d)[position]? = some option ∧
      d.aliasAt position ∈ (ofOptions names s options).aliases := by
  obtain ⟨position, hlt, hoption⟩ := List.getElem_of_mem h
  refine ⟨position, (List.getElem?_eq_getElem hlt).trans (congrArg some hoption), ?_⟩
  rw [aliases_ofOptions, List.mem_append, List.mem_flatMap]
  exact .inl ⟨d, d.mem_all, List.mem_map_of_mem (List.mem_range.mpr hlt)⟩

/-- **Which selections compile over which catalogs.** Whatever is given for them:

* The payload is taken for a catalog unless a plain option, as a record, is among its tags. Each
  table of the catalog has the options that the payload gives for it.
* The selection compiles over it exactly when every chosen value can be written. The aliases are
  those of the options and the total. Every option with a name that the payload gives for a
  dimension is among them, and no other option is. -/
theorem compile_any (names : FacetNames) (choice payload : Value) :
    ((∃ c, Catalog.coerce payload = .ok c) ↔ payload.hasPlainTag = false) ∧
    ∀ c, Catalog.coerce payload = .ok c →
      (∀ t, c.rows t = Catalog.offered payload t) ∧
      ((∃ q, compile names (Selection.coerce choice) c = .ok q)
        ↔ ∀ d, ∀ v ∈ (Selection.coerce choice).values d, v.isWritable = true) ∧
      ∀ q, compile names (Selection.coerce choice) c = .ok q →
        q.aliases = q.options.aliases ∧
        (∀ d, q.options d
          = (Catalog.offered payload d.table).filter fun option => !option.isPlaceholder) ∧
        ∀ d, ∀ option ∈ Catalog.offered payload d.table, option.isPlaceholder = false →
          ∃ position, (q.options d)[position]? = some option ∧
            d.aliasAt position ∈ q.aliases := by
  refine ⟨⟨?_, ?_⟩, ?_⟩
  · rintro ⟨c, hc⟩
    exact ((Catalog.coerce_eq_ok_iff payload c).mp hc).1
  · intro hplain
    exact ⟨_, (Catalog.coerce_eq_ok_iff payload _).mpr ⟨hplain, rfl⟩⟩
  · intro c hc
    -- From here on the catalog is the one of the offered rows, so its tables are known.
    obtain ⟨-, rfl⟩ := (Catalog.coerce_eq_ok_iff payload c).mp hc
    refine ⟨Catalog.rows_ofRows _, ⟨?_, ?_⟩, ?_⟩
    · rintro ⟨q, hq⟩
      exact ((compile_eq_ok_iff names _ _ q).mp hq).1
    · intro hwritable
      exact ⟨_, (compile_eq_ok_iff names _ _ _).mpr ⟨hwritable, rfl⟩⟩
    · intro q hq
      obtain ⟨-, rfl⟩ := (compile_eq_ok_iff names _ _ q).mp hq
      -- A dimension counts what its table offers, less the rows that have no name to show.
      have hoptions : ∀ d, (Catalog.ofRows (Catalog.offered payload)).facetOptions d
          = (Catalog.offered payload d.table).filter fun option => !option.isPlaceholder := by
        intro d
        rw [Catalog.facetOptions, Catalog.options_eq_rows, Catalog.rows_ofRows]
      refine ⟨aliases_ofOptions names _ _, hoptions, fun d option hoption hname => ?_⟩
      refine exists_alias_of_mem names _ ?_
      show option ∈ (Catalog.ofRows (Catalog.offered payload)).facetOptions d
      rw [hoptions, List.mem_filter]
      exact ⟨hoption, by rw [hname]; rfl⟩

/-- The main fact at a catalog that mixes raw rows, rows that are no options, and options of both
classes, in a list of types and a tuple of tags, and at a selection that holds a set. -/
theorem compile_any_mixed_rows :
    let choice := Value.map [(.text "types", .list [.set false [.int 1]])]
    let row := Value.map [(.text "id", .int 1), (.text "name", .text "A")]
    let tag := Value.map [(.text "id", .text "u"), (.text "name", .text "U"),
      (.text "tagType", .int 5)]
    let payload := Value.map
      [(.text "profileTypes", .list [.null, .choice (.plain "2" (some "B")), row]),
        (.text "tags", .tuple [.bool true, tag, .choice (.tag "t" (some "T") none)])]
    ∃ c q, Catalog.coerce payload = .ok c ∧ compile {} (Selection.coerce choice) c = .ok q ∧
      q.options .types = [.plain "2" (some "B"), .plain "1" (some "A")] ∧
      ∃ position, (q.options .tags)[position]? = some (.tag "u" (some "U") none) ∧
        Dimension.tags.aliasAt position ∈ q.aliases := by
  intro choice row tag payload
  obtain ⟨hcatalog, hcompiles⟩ := compile_any {} choice payload
  obtain ⟨c, hc⟩ := hcatalog.mpr (by decide)
  obtain ⟨-, hselection, hquery⟩ := hcompiles c hc
  -- The selection has no records in it, so it can be written, the set included.
  have hraw : choice.IsRaw := by simp [choice]
  obtain ⟨q, hq⟩ := hselection.mpr fun d v hv => (Selection.isRaw_of_mem_values hraw hv).isWritable
  obtain ⟨-, hoptions, hcounted⟩ := hquery q hq
  have htags : Catalog.offered payload .tags
      = [.tag "u" (some "U") none, .tag "t" (some "T") none] := rfl
  refine ⟨c, q, hc, hq, (hoptions .types).trans rfl, hcounted .tags _ ?_ (by decide)⟩
  rw [Dimension.table, htags]
  exact List.mem_cons_self

/-- What is refused: a catalog with one plain option among its tags, as a record, and a selection
with one record that holds a set with a record. -/
theorem compile_refused :
    Catalog.coerce (.map [(.text "tags", .list [.choice (.plain "1" (some "A"))])])
      = .error (.invalid "FilterMetadata" [⟨[.name "tags", .index 0], .notRecord⟩]) ∧
    compile {} (Selection.coerce (.map [(.text "types",
      .list [.selection { tags := some [.set false [.expr .everything]] }])])) {}
      = .error .unsupported := ⟨rfl, rfl⟩

/-- **Raw values always compile.** Whatever two values are given for a selection and a catalog, a
query comes of them if neither holds a record. -/
theorem compile_raw (names : FacetNames) {choice payload : Value} (hchoice : choice.IsRaw)
    (hpayload : payload.IsRaw) :
    ∃ c q, Catalog.coerce payload = .ok c ∧ compile names (Selection.coerce choice) c = .ok q := by
  obtain ⟨c, hc⟩ := Catalog.exists_coerce_of_isRaw hpayload
  refine ⟨c, _, hc, compile_of_writable names c fun d v hv => ?_⟩
  exact (Selection.isRaw_of_mem_values hchoice hv).isWritable

end FacetQuery

end FacetSearch
