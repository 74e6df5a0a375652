import FacetSearch.Facets.Session
import FacetSearch.Proofs.Entries

/-!
# `FacetSearch.Proofs.Facets.Counts`: a decoded table holds the true counts

What a query asks for is what stands in its text: under each alias the where clause of an
expression. `FacetQuery.Emits` says which aliased expressions the aliases and the text of a query
are made of. A server takes the where mapping of each for a set of profiles and answers with their
number. Here it is any function from where mappings to natural numbers, and `IsAnswered` says that a
reply holds its number under each alias. The reply can hold other entries, in any order.

`decode_edited` proves the main fact. Take a query compiled over a catalog, edit the catalog in any
way, and decode an answered reply, alone or in an envelope. The table has one entry for each id of
an option at the time of the compile. Its count is the server's number for the selection in the
other dimensions together with that id. The total is the number for the whole selection.

The proof follows the aliases. The compiler and the decoder number the options by the same walk over
the same list (`mem_fields_of_option`), so the count read under the alias of an option is the
server's number for its id (`countAt_option`). A table is then the putting of one number for each id
(`Entries.putAll_map`). An edit leaves the query of a session as it is (`query_edits`).
-/

set_option autoImplicit false

namespace FacetSearch

/-- A query emits aliased expressions when its aliases are theirs, in order, and its text has one
line for each. The line asks for the count of the profiles of the where clause, and the clause is
the where mapping of the expression as the text of a literal. -/
structure FacetQuery.Emits (q : FacetQuery) (names : FacetNames) (emitted : List (Text × Expr)) :
    Prop where
  aliases : q.aliases = emitted.map (·.1)
  text : q.text = joinedText "\n" (("query " ++ names.operationName ++ " \x7b") ::
    emitted.map (fun field => "  " ++ field.1 ++ ": " ++ names.aggregateField ++
      "(filter_input: \x7b where: " ++ field.2.toWhere.literalText ++
        " \x7d) \x7b _count \x7d") ++ [("\x7d" : Text)])

/-- A reply holds the server's number under the alias of each field. -/
def IsAnswered (count : Value → Nat) (fields : List (Text × Expr))
    (reply : List (Value × Value)) : Prop :=
  ∀ field ∈ fields, ∃ entry, Value.get? reply field.1 = some (.map entry) ∧
    Value.get? entry "_count" = some (.int (count field.2.toWhere))

namespace FacetQuery

/-- The where expression of an id: the selection in every other dimension, and the id. It names the
id alone and not the option, so two options with one id share it. -/
def idExpr (s : Selection) (d : Dimension) (id : Text) : Expr :=
  .ofList ((s.without d).conditions ++ [d.isEqual (.text id)])

/-- The server's numbers for the options of a dimension: one entry for each id, in the order of
first appearance. -/
def trueCounts (count : Value → Nat) (s : Selection) (options : FacetOptions) (d : Dimension) :
    List (Text × Int) :=
  ((options d).map Choice.id).eraseDups.map fun id => (id, (count (idExpr s d id).toWhere : Int))

/-- The table of the server's numbers. -/
def trueTable (count : Value → Nat) (s : Selection) (options : FacetOptions) : CountTable where
  types := trueCounts count s options .types
  sectors := trueCounts count s options .sectors
  statuses := trueCounts count s options .statuses
  tags := trueCounts count s options .tags
  total := count s.toExpr.toWhere

/-- The counts of a dimension in the table of the server's numbers. -/
theorem counts_trueTable (count : Value → Nat) (s : Selection) (options : FacetOptions)
    (d : Dimension) : (trueTable count s options).counts d = trueCounts count s options d := by
  cases d <;> rfl

/-- A query over options emits its fields: both its aliases and its text are made from the same
list, in the same order. -/
theorem emits_ofOptions (names : FacetNames) (s : Selection) (options : FacetOptions) :
    (ofOptions names s options).Emits names (fields s options) := ⟨rfl, rfl⟩

/-- The option at a position has the field of its id under the alias of that position. The decoder
finds the count of the option by this alias. -/
theorem mem_fields_of_option {s : Selection} {options : FacetOptions} {d : Dimension}
    {position : Nat} {row : Choice} (h : (options d)[position]? = some row) :
    (d.aliasAt position, idExpr s d row.id) ∈ fields s options := by
  have hd : d ∈ Dimension.all := by cases d <;> decide
  have hfield : (d.aliasAt position, optionExpr s d row) ∈ dimensionFields s options d := by
    obtain ⟨hlt, rfl⟩ := List.getElem?_eq_some_iff.mp h
    exact List.mem_mapIdx.mpr ⟨position, hlt, rfl⟩
  exact List.mem_append_left _ (List.mem_flatMap.mpr ⟨d, hd, hfield⟩)

/-- The total has the field of the whole selection. -/
theorem total_mem_fields (s : Selection) (options : FacetOptions) :
    (totalAlias, s.toExpr) ∈ fields s options :=
  List.mem_append_right _ (List.mem_singleton.mpr rfl)

end FacetQuery

namespace FacetOptions

open FacetQuery

variable {count : Value → Nat} {s : Selection} {options : FacetOptions}
  {reply : List (Value × Value)}

/-- The count read under the alias of a field is the server's number, whatever else stands in the
reply. -/
theorem countAt_of_isAnswered {fields : List (Text × Expr)} {field : Text × Expr}
    (h : IsAnswered count fields reply) (hfield : field ∈ fields) :
    countAt reply field.1 = .ok (count field.2.toWhere : Int) := by
  obtain ⟨entry, hentry, hcount⟩ := h field hfield
  simp [countAt, hentry, hcount, Value.entryCount, Value.count]

/-- The count read for an option, by the walk of the decoder over the options. The walk numbers them
anew, and the numbers agree with those of the compiler. -/
theorem countAt_option (h : IsAnswered count (fields s options) reply) (d : Dimension) :
    ∀ named ∈ (options d).mapIdx fun position row => (d.aliasAt position, row.id),
      countAt reply named.1 = .ok (count (idExpr s d named.2).toWhere : Int) := by
  intro named hnamed
  obtain ⟨position, hlt, rfl⟩ := List.mem_mapIdx.mp hnamed
  exact countAt_of_isAnswered h (mem_fields_of_option (List.getElem?_eq_getElem hlt))

/-- A walk whose steps all succeed succeeds. -/
theorem mapM_eq_ok {α β : Type} {f : α → Except Failure β} {g : α → β} {items : List α}
    (h : ∀ x ∈ items, f x = .ok (g x)) : items.mapM f = .ok (items.map g) := by
  induction items with
  | nil => rfl
  | cons x rest ih =>
      rw [List.mapM_cons, h x List.mem_cons_self, ih fun y hy => h y (List.mem_cons_of_mem _ hy)]
      rfl

/-- The decoded counts of a dimension are the server's numbers, one for each id. Options that share
an id also share the where expression, so it does not matter whose count stays. -/
theorem dimensionCounts_of_isAnswered (h : IsAnswered count (fields s options) reply)
    (d : Dimension) : dimensionCounts options reply d = .ok (trueCounts count s options d) := by
  have hids : ((options d).mapIdx fun position row => (d.aliasAt position, row.id)).map (·.2)
      = (options d).map Choice.id := by
    refine List.ext_getElem (by simp) fun position h₁ h₂ => ?_
    simp
  let counted (id : Text) : Text × Int := (id, count (idExpr s d id).toWhere)
  -- The decoder numbers the options anew; each count it reads is the number for the id there.
  rw [dimensionCounts, mapM_eq_ok (g := fun named => counted named.2)]
  · show Except.ok (Entries.putAll [] (List.map (counted ∘ Prod.snd) _)) = _
    rw [← List.map_map, hids, trueCounts, ← Entries.putAll_map]
  · intro named hnamed
    simp only [countAt_option h d named hnamed]
    rfl

/-- An answered reply is its own mapping of aliases, since it holds a total. An entry named `data`
in it is not taken for an envelope. -/
theorem payload_of_isAnswered (h : IsAnswered count (fields s options) reply) :
    payload (.map reply) = reply := by
  -- The total is there, so no envelope is looked for.
  obtain ⟨entry, htotal, -⟩ := h _ (total_mem_fields s options)
  simp only [payload, htotal]

/-- An envelope that holds nothing else is opened. -/
theorem payload_envelope (reply : List (Value × Value)) :
    payload (.map [(.text "data", .map reply)]) = reply := rfl

/-- A reply whose mapping of aliases is answered decodes to the table of the server's numbers. -/
theorem decode_of_isAnswered {raw : Value} (hraw : payload raw = reply)
    (h : IsAnswered count (fields s options) reply) :
    options.decode raw = .ok (trueTable count s options) := by
  have htotal : countAt reply totalAlias = .ok (count s.toExpr.toWhere : Int) :=
    countAt_of_isAnswered h (total_mem_fields s options)
  simp only [decode, hraw, dimensionCounts_of_isAnswered h, htotal]
  rfl

end FacetOptions

namespace FacetSession

/-- An edit leaves the query as it is. By induction on the edits, from one edit that changes a table
of the catalog and nothing else. -/
theorem query_edits (v : FacetSession) (edits : List CatalogEdit) :
    (edits.foldl edit v).query = v.query := by
  induction edits generalizing v with
  | nil => rfl
  | cons change rest ih =>
      rw [List.foldl_cons, ih]
      rfl

/-- A session that was compiled holds its catalog, and the query of the options that the catalog
offers. -/
theorem query_compile {names : FacetNames} {choice : Value} {v compiled : FacetSession}
    (h : v.compile names choice = .ok compiled) :
    compiled.catalog = v.catalog ∧ compiled.query = some
      (.ofOptions names (Selection.coerce choice) v.catalog.facetOptions) := by
  rw [compile, FacetQuery.compile] at h
  -- A compile that fails leaves no session, so only the branch of success has to be read.
  split at h
  · cases h
    exact ⟨rfl, rfl⟩
  · cases h

/-- **A decoded table holds the true counts.** Compile a query over a catalog. Its aliases and its
text are made of aliased expressions, and these decide what is counted: edit the catalog in any way,
take any server, and decode a reply that holds the server's number for the where mapping of each
expression under its alias, alone or in an envelope. The table has each id of the options at the
time of the compile once, in the order of first appearance. Its count is the number for the
selection in the other dimensions together with that id, and the total is the number for the
selection. -/
theorem decode_edited (names : FacetNames) (choice catalog : Value) (compiled : FacetSession)
    (hcompile : (start catalog).bind (compile names choice) = .ok compiled) :
    ∃ (q : FacetQuery) (emitted : List (Text × Expr)), compiled.query = some q ∧
      q.Emits names emitted ∧
      ∀ (count : Value → Nat) (edits : List CatalogEdit) (reply : List (Value × Value)),
        IsAnswered count emitted reply → ∃ table : CountTable,
          (edits.foldl edit compiled).decode (.map reply) = .ok table ∧
          (edits.foldl edit compiled).decode (.map [(.text "data", .map reply)]) = .ok table ∧
          (∀ d, table.counts d
            = ((compiled.catalog.facetOptions d).map Choice.id).eraseDups.map fun id =>
                (id, (count (Expr.ofList
                  (((Selection.coerce choice).without d).conditions ++
                    [d.isEqual (.text id)])).toWhere : Int))) ∧
          table.total = count (Selection.coerce choice).toExpr.toWhere := by
  -- A compile that succeeds has opened the catalog before.
  obtain ⟨opened, -, hopened⟩ : ∃ opened, start catalog = .ok opened ∧
      compile names choice opened = .ok compiled := by
    cases hstart : start catalog with
    | error cause => rw [hstart] at hcompile; cases hcompile
    | ok opened => rw [hstart] at hcompile; exact ⟨opened, rfl, hcompile⟩
  obtain ⟨hcatalog, hquery⟩ := query_compile hopened
  rw [← hcatalog] at hquery
  refine ⟨_, _, hquery, FacetQuery.emits_ofOptions _ _ _, fun count edits reply hreply => ?_⟩
  -- The edits change the catalog and not the query, and decoding asks the query alone.
  have hdecode : ∀ raw, (edits.foldl edit compiled).decode raw
      = compiled.catalog.facetOptions.decode raw := by
    intro raw
    rw [decode, query_edits, hquery]
    rfl
  let table := FacetQuery.trueTable count (Selection.coerce choice) compiled.catalog.facetOptions
  refine ⟨table, ?_, ?_, ?_, rfl⟩
  · rw [hdecode]
    exact FacetOptions.decode_of_isAnswered (FacetOptions.payload_of_isAnswered hreply) hreply
  · rw [hdecode]
    exact FacetOptions.decode_of_isAnswered (FacetOptions.payload_envelope reply) hreply
  · exact FacetQuery.counts_trueTable count _ _

/-- A catalog of three types: two share an id, and the one between them has a blank name. -/
def sharedIdCatalog : Value :=
  .map [(.text "profileTypes", .list
    [.map [(.text "id", .text "1"), (.text "name", .text "A")],
     .map [(.text "id", .text "9"), (.text "name", .text " ")],
     .map [(.text "id", .text "1"), (.text "name", .text "B")]])]

/-- The main fact at two options that share an id, with a placeholder between them, and an option
inserted in front after the compile. The server counts one profile for every clause, so it is enough
to know the aliases of the query to give its answer. -/
theorem decode_edited_shared_id :
    ∃ (compiled : FacetSession) (q : FacetQuery) (emitted : List (Text × Expr))
      (table : CountTable),
      (start sharedIdCatalog).bind (compile {} (.map [(.text "types", .list [.text "1"])]))
        = .ok compiled ∧ compiled.query = some q ∧ q.Emits {} emitted ∧
      ([CatalogEdit.insert .types 0 (.plain "7" (some "new"))].foldl edit compiled).decode
        (.map [(.text "total", .map [(.text "_count", .int 1)]), (.text "other", .null),
          (.text "type_1", .map [(.text "_count", .int 1)]),
          (.text "type_0", .map [(.text "_count", .int 1)])]) = .ok table ∧
      table.types = [(("1" : Text), 1)] ∧ table.total = 1 := by
  let reply : List (Value × Value) :=
    [(.text "total", .map [(.text "_count", .int 1)]), (.text "other", .null),
      (.text "type_1", .map [(.text "_count", .int 1)]),
      (.text "type_0", .map [(.text "_count", .int 1)])]
  -- The theorem gives the query; its aliases are then computed from the compiled text.
  obtain ⟨q, emitted, hquery, hemits, hdecoded⟩ := decode_edited {}
    (.map [(.text "types", .list [.text "1"])]) sharedIdCatalog _ rfl
  have haliases : emitted.map (·.1) = [("type_0" : Text), "type_1", "total"] := by
    rw [← hemits.aliases, ← Option.some.inj hquery]
    rfl
  -- The server answers every clause with one, so the reply is checked alias by alias.
  have hanswered : IsAnswered (fun _ => 1) emitted reply := by
    intro field hfield
    have hname := List.mem_map_of_mem (f := Prod.fst) hfield
    rw [haliases, List.mem_cons, List.mem_cons, List.mem_singleton] at hname
    rcases hname with hname | hname | hname <;> rw [hname] <;> exact ⟨_, rfl, rfl⟩
  obtain ⟨table, hreply, -, hcounts, htotal⟩ :=
    hdecoded (fun _ => 1) [.insert .types 0 (.plain "7" (some "new"))] reply hanswered
  exact ⟨_, q, emitted, table, rfl, hquery, hemits, hreply, hcounts .types, htotal⟩

end FacetSession

end FacetSearch
