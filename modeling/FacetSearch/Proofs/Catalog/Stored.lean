import FacetSearch.Catalog.Payload
import FacetSearch.Facets
import FacetSearch.Proofs.Catalog.Tables
import FacetSearch.Proofs.Json.Reader
import FacetSearch.Proofs.Literal.Meaning

/-!
# `FacetSearch.Proofs.Catalog.Stored`: catalogs that are stored and read back

`Catalog.toPayload` is the mapping that a catalog is stored as. It has the fields and the values of
the object that a catalog becomes in a query (`ofValue_toPayload`), and as JSON it is read from its
own text again (`read_body_toPayload`).

A stored row is read back, whatever row it is (`row?_payloadOf`). The places for plain rows keep the
identifier and the name of a row and no kind, so a row can come back as another one, and `stored`
says as which. Storing twice is storing once (`stored_stored`), and a catalog comes back as it was
exactly when no row changes on the way (`coerce_toPayload_eq_self_iff`).

The rows that are read from values without records do not change (`stored_of_row?`). The main fact
`coerce_stored` follows: what is read from such a payload is the same catalog ever after.
-/

set_option autoImplicit false

namespace FacetSearch

namespace Choice

/-- The row that a plain row is read back as. A tag option among plain rows is stored without its
kind and comes back as a plain one. -/
def asPlain (c : Choice) : Choice := .plain c.id c.name

/-- The row that a tag row is read back as. Its kind is a plain row, if it has one: a kind of its
own is not stored. -/
def asTag : Choice → Choice
  | .plain id name => .tag id name none
  | .tag id name kind => .tag id name (kind.map asPlain)

/-- The fields of a plain row are read as the row without a kind. Its name is stored as null when it
is missing, and null is read as a missing name. -/
theorem ofRow?_plainPayload (c : Choice) : ofRow? c.plainPayload = some c.asPlain := by
  unfold plainPayload asPlain
  cases c.name <;> rfl

/-- The fields of a row are read as a tag row. -/
theorem ofTagRow?_payload (c : Choice) : ofTagRow? c.payload = some c.asTag := by
  cases c with
  | plain id name => cases name <;> rfl
  | tag id name kind =>
      -- The kind is a row of its own, and null when there is none.
      have hkind : ((some ((kind.map plainPayload).getD .null)).bind ofRow? : Option Choice)
          = kind.map asPlain := by
        cases kind with
        | none => rfl
        | some row => exact ofRow?_plainPayload row
      have hread : ofTagRow? (payload (.tag id name kind))
          = some (.tag id name ((some ((kind.map plainPayload).getD .null)).bind ofRow?)) := by
        cases name <;> rfl
      rw [hread, hkind, asTag]

/-- A row that is read from a value without records has no kind. -/
theorem asPlain_of_ofRow? {row : Value} (h : row.IsRaw) {option : Choice}
    (hoption : ofRow? row = some option) : option.asPlain = option := by
  cases h with
  | map =>
      simp only [ofRow?, Option.bind_eq_bind, Option.bind_eq_some_iff, Option.pure_def] at hoption
      obtain ⟨id, -, name, -, heq⟩ := hoption
      rw [← Option.some.inj heq]
      rfl
  | _ => cases hoption

/-- A tag row that is read from a value without records has a plain kind or none, as its kind is
read from a value without records itself. So the kind does not change by being stored. -/
theorem asTag_of_ofTagRow? {row : Value} (h : row.IsRaw) {option : Choice}
    (hoption : ofTagRow? row = some option) : option.asTag = option := by
  cases h with
  | @map given hkeys hvalues =>
      simp only [ofTagRow?, Option.bind_eq_bind, Option.bind_eq_some_iff, Option.pure_def]
        at hoption
      obtain ⟨id, -, name, -, heq⟩ := hoption
      -- The kind is a row of its own, read from a value inside of the row.
      have hkind : ((Value.get? given "tagType").bind ofRow?).map asPlain
          = (Value.get? given "tagType").bind ofRow? := by
        cases hread : (Value.get? given "tagType").bind ofRow? with
        | none => rfl
        | some kind =>
            obtain ⟨v, hv, hrow⟩ := Option.bind_eq_some_iff.mp hread
            have hraw : v.IsRaw := (Value.IsRaw.map hkeys hvalues).of_get? hv
            rw [Option.map_some, asPlain_of_ofRow? hraw hrow]
      rw [← Option.some.inj heq, asTag, hkind]
  | _ => cases hoption

end Choice

namespace Catalog

namespace Table

/-- The mapping that a row of a table is stored as. -/
def payloadOf : Table → Choice → Value
  | .tags => Choice.payload
  | _ => Choice.plainPayload

/-- The object that a row of a table becomes in a query. -/
def literalOf : Table → Choice → Literal
  | .tags => Choice.literal
  | _ => Choice.plainLiteral

/-- The row that a row of a table is read back as. -/
def stored : Table → Choice → Choice
  | .tags => Choice.asTag
  | _ => Choice.asPlain

/-- Every stored row is an option of its table, whatever its texts are. So no row is dropped on the
way back. -/
theorem row?_payloadOf (t : Table) (row : Choice) :
    t.row? (t.payloadOf row) = some (t.stored row) := by
  cases t with
  | tags => exact row.ofTagRow?_payload
  | _ => exact row.ofRow?_plainPayload

/-- An option that a table reads from a value without records is read back as it is. -/
theorem stored_of_row? {t : Table} {row : Value} (h : row.IsRaw) {option : Choice}
    (hoption : t.row? row = some option) : t.stored option = option := by
  cases t with
  | tags => exact Choice.asTag_of_ofTagRow? h hoption
  | _ => exact Choice.asPlain_of_ofRow? h hoption

/-- Storing a catalog again changes nothing more: what storing loses, it loses at once. -/
theorem stored_stored (t : Table) (row : Choice) : t.stored (t.stored row) = t.stored row := by
  cases t with
  | tags =>
      cases row with
      | plain => rfl
      | tag id name kind => cases kind <;> rfl
  | _ => rfl

end Table

/-- The catalog that a catalog is read back as. -/
def stored (c : Catalog) : Catalog := ofRows fun t => (c.rows t).map t.stored

@[simp]
theorem rows_stored (c : Catalog) (t : Table) : c.stored.rows t = (c.rows t).map t.stored :=
  rows_ofRows _ t

/-- Storing a catalog again changes nothing more. -/
theorem stored_stored (c : Catalog) : c.stored.stored = c.stored := by
  refine eq_iff_rows.mpr fun t => ?_
  rw [rows_stored, rows_stored, List.map_map]
  exact List.map_congr_left fun row _ => t.stored_stored row

/-- A catalog is read back as it was when every row of it is. Tables keep their rows and their order
in any case. -/
theorem stored_eq_self_iff (c : Catalog) :
    c.stored = c ↔ ∀ t, ∀ row ∈ c.rows t, t.stored row = row := by
  rw [eq_iff_rows]
  refine forall_congr' fun t => ?_
  rw [rows_stored]
  refine Iff.trans ?_ List.map_inj_left
  rw [List.map_id']

/-! ### The stored mapping -/

/-- The mapping of a catalog has every table under its first name. -/
theorem toPayload_eq (c : Catalog) :
    c.toPayload = .ofFields (Table.all.map fun t =>
      (t.names.1, .list ((c.rows t).map t.payloadOf))) := rfl

/-- A table of a stored catalog has its rows, each as it is stored, in their order. -/
theorem given_toPayload (c : Catalog) :
    ∃ entries, c.toPayload = .map entries ∧
      ∀ t : Table, t.given entries = (c.rows t).map t.payloadOf := by
  refine ⟨_, rfl, fun t => ?_⟩
  cases t <;> rfl

/-- No row of a stored catalog is a record, so no plain option stands among its tags. -/
theorem hasPlainTag_toPayload (c : Catalog) : c.toPayload.hasPlainTag = false := by
  obtain ⟨entries, hentries, hgiven⟩ := c.given_toPayload
  rw [hentries, Value.hasPlainTag, hgiven, List.any_map]
  refine List.any_eq_false.mpr fun row _ => ?_
  cases row <;> exact Bool.false_ne_true

/-- **Every catalog can be stored.** Its mapping is taken for a catalog, with every row in its
place, as it is read back. No row is a record there, so nothing is in the way of the check. -/
theorem coerce_toPayload (c : Catalog) : coerce c.toPayload = .ok c.stored := by
  refine (coerce_eq_ok_iff _ _).mpr ⟨c.hasPlainTag_toPayload, eq_iff_rows.mpr fun t => ?_⟩
  obtain ⟨entries, hentries, hgiven⟩ := c.given_toPayload
  have hread : t.row? ∘ t.payloadOf = some ∘ t.stored := funext t.row?_payloadOf
  rw [rows_stored, rows_ofRows, hentries, offered, Table.read, hgiven, List.filterMap_map, hread,
    List.filterMap_eq_map]

/-- A catalog is the one read back from its mapping when no row changes by being stored. -/
theorem coerce_toPayload_eq_self_iff (c : Catalog) :
    coerce c.toPayload = .ok c ↔ ∀ t, ∀ row ∈ c.rows t, t.stored row = row := by
  rw [coerce_toPayload, Except.ok.injEq, stored_eq_self_iff]

end Catalog

/-! ### The object of a catalog -/

namespace Literal

/-- A text that may be missing has its literal. -/
theorem ofValueIn_ofOptionalText (inRecord : Bool) (text : Option Text) :
    ofValueIn inRecord (.ofOptionalText text) = ofText? text := by
  cases text <;> rfl

end Literal

namespace Choice

/-- The stored fields of a plain row are those of its object. -/
theorem ofValueIn_plainPayload (inRecord : Bool) (c : Choice) :
    Literal.ofValueIn inRecord c.plainPayload = c.plainLiteral := by
  rw [plainPayload, Literal.ofValueIn_ofFields, plainLiteral]
  simp only [List.map_cons, List.map_nil, Literal.ofValueIn_ofOptionalText, Literal.ofValueIn]

/-- The stored fields of a row are those of its object. -/
theorem ofValueIn_payload (inRecord : Bool) (c : Choice) :
    Literal.ofValueIn inRecord c.payload = c.literal := by
  cases c with
  | plain id name => exact ofValueIn_plainPayload inRecord (.plain id name)
  | tag id name kind =>
      rw [payload, Literal.ofValueIn_ofFields]
      simp only [List.map_cons, List.map_nil, Literal.ofValueIn_ofOptionalText, Literal.ofValueIn]
      cases kind with
      | none => rfl
      | some row =>
          rw [Option.map_some, Option.getD_some, row.ofValueIn_plainPayload]
          rfl

end Choice

namespace Catalog

/-- **A catalog is stored with the fields of its object in a query.** The two are written by
different parts, and this is what keeps them from drifting apart. -/
theorem ofValue_toPayload (c : Catalog) :
    Literal.ofValue c.toPayload = Literal.ofValue (.catalog c) := by
  have hrow : ∀ (t : Table) (row : Choice),
      Literal.ofValueIn false (t.payloadOf row) = t.literalOf row := by
    intro t row
    cases t with
    | tags => exact row.ofValueIn_payload false
    | _ => exact row.ofValueIn_plainPayload false
  -- Both have the nine tables under their first names, in one order.
  have hobject : Literal.ofValue (.catalog c)
      = .object (Table.all.map fun t => (t.names.1, .list ((c.rows t).map t.literalOf))) := rfl
  rw [hobject, toPayload_eq, Literal.ofValue, Literal.ofValueIn_ofFields, List.map_map]
  refine congrArg Literal.object (List.map_congr_left fun t _ => Prod.ext rfl ?_)
  show Literal.ofValueIn false (.list ((c.rows t).map t.payloadOf)) = _
  rw [Literal.ofValueIn, Literal.ofItems_eq, List.map_map]
  exact congrArg Literal.list (List.map_congr_left fun row _ => hrow t row)

end Catalog

/-! ### The text of a stored catalog -/

namespace Choice

/-- A text that may be missing is JSON. -/
theorem isJson_ofOptionalText (text : Option Text) :
    (Value.ofOptionalText text).IsJson Text.IsAny := by
  cases text with
  | none => exact .null
  | some content => exact .text trivial

/-- The stored fields of a plain row are JSON. -/
theorem isJson_plainPayload (c : Choice) : c.plainPayload.IsJson Text.IsAny := by
  have hnames : (["id", "name"] : List Text).Nodup := by decide
  refine .object hnames (fun _ _ => trivial) ?_
  simp only [List.forall_mem_cons]
  exact ⟨.text trivial, isJson_ofOptionalText c.name, List.forall_mem_nil _⟩

/-- The stored fields of a row are JSON. -/
theorem isJson_payload (c : Choice) : c.payload.IsJson Text.IsAny := by
  cases c with
  | plain id name => exact isJson_plainPayload (.plain id name)
  | tag id name kind =>
      have hkind : ((kind.map plainPayload).getD .null).IsJson Text.IsAny := by
        cases kind with
        | none => exact .null
        | some row => exact row.isJson_plainPayload
      have hnames : (["id", "name", "tagType"] : List Text).Nodup := by decide
      refine .object hnames (fun _ _ => trivial) ?_
      simp only [List.forall_mem_cons]
      exact ⟨.text trivial, isJson_ofOptionalText name, hkind, List.forall_mem_nil _⟩

/-- A stored plain row has one pair of brackets, so a reader that goes this deep reads it. -/
theorem fits_plainPayload (depth : Nat) (c : Choice) :
    Json.fits (depth + 1) c.plainPayload = true := by
  unfold plainPayload Value.ofFields
  cases c.name <;> simp [Value.ofOptionalText, Json.fits, Json.allEntriesFit]

/-- A stored row has one pair of brackets, and its kind has one more. -/
theorem fits_payload (depth : Nat) (c : Choice) : Json.fits (depth + 2) c.payload = true := by
  cases c with
  | plain id name => exact fits_plainPayload (depth + 1) (.plain id name)
  | tag id name kind =>
      have hname : Json.fits (depth + 1) (.ofOptionalText name) = true := by cases name <;> rfl
      have hkind : Json.fits (depth + 1) ((kind.map plainPayload).getD .null) = true := by
        cases kind with
        | none => rfl
        | some row => exact row.fits_plainPayload depth
      simp [payload, Value.ofFields, Json.fits, Json.allEntriesFit, hname, hkind]

end Choice

namespace Catalog

/-- A stored catalog is JSON, whatever code points its texts have. -/
theorem isJson_toPayload (c : Catalog) : c.toPayload.IsJson Text.IsAny := by
  have hnames : ((Table.all.map fun t =>
      (t.names.1, Value.list ((c.rows t).map t.payloadOf))).map (·.1)).Nodup := by
    rw [List.map_map]
    show (Table.all.map fun t => t.names.1).Nodup
    decide
  rw [toPayload_eq]
  refine .object hnames (fun _ _ => trivial) (List.forall_mem_map.mpr fun t _ => ?_)
  refine .list (List.forall_mem_map.mpr fun row _ => ?_)
  cases t with
  | tags => exact row.isJson_payload
  | _ => exact row.isJson_plainPayload

/-- A stored catalog has four brackets in one another at most, and no numbers. -/
theorem fits_toPayload (depth : Nat) (c : Catalog) :
    Json.fits (depth + 4) c.toPayload = true := by
  have hrow : ∀ (t : Table) (row : Choice), Json.fits (depth + 2) (t.payloadOf row) = true := by
    intro t row
    cases t with
    | tags => exact row.fits_payload depth
    | _ => exact row.fits_plainPayload (depth + 1)
  have htable : ∀ t : Table,
      Json.fits (depth + 3) (.list ((c.rows t).map t.payloadOf)) = true := by
    intro t
    simp [Json.fits, Json.allFit_eq, hrow]
  rw [toPayload_eq, Value.ofFields_eq, Json.fits, Json.allEntriesFit_eq, List.all_map]
  simp [htable]

/-- **A stored catalog is read from its JSON text,** also where its identifiers and names hold lone
surrogates: these stand in the text as they are. -/
theorem read_body_toPayload (c : Catalog) :
    ∃ text, Json.body c.toPayload = .ok text ∧ Json.read text = .ok c.toPayload := by
  have hfits : Json.fits Json.depthLimit c.toPayload = true := c.fits_toPayload 976
  exact ⟨_, Json.body_of_isJson c.isJson_toPayload,
    Json.read_write Json.isUndone_jsonPoint c.isJson_toPayload hfits⟩

/-! ### Payloads without records -/

/-- No row that is read from a payload without records changes by being stored, since each of its
rows is read from a mapping and holds what its place keeps. -/
theorem stored_of_isRaw {payload : Value} (h : payload.IsRaw) {c : Catalog}
    (hc : coerce payload = .ok c) : c.stored = c := by
  obtain ⟨-, rfl⟩ := (coerce_eq_ok_iff payload c).mp hc
  refine (stored_eq_self_iff _).mpr fun t row hrow => ?_
  rw [rows_ofRows] at hrow
  cases payload with
  | map entries =>
      obtain ⟨v, hv, hread⟩ := List.mem_filterMap.mp hrow
      exact Table.stored_of_row? (isRaw_of_mem_given h hv) hread
  | catalog => cases h
  | _ => cases hrow

/-- **A catalog that is read from a payload without records is the same ever after.** The payload is
taken for a catalog, whose tables have the options that the payload gives. What the catalog is
stored as has the fields of its object in a query, and it is taken for the same catalog again, from
the mapping and from the JSON text of the mapping. So every selection compiles over what is read
back as over the catalog itself. -/
theorem coerce_stored {entries : List (Value × Value)} (h : (Value.map entries).IsRaw) :
    ∃ c, coerce (.map entries) = .ok c ∧ (∀ t : Table, c.rows t = t.read entries) ∧
      Literal.ofValue c.toPayload = Literal.ofValue (.catalog c) ∧
      coerce c.toPayload = .ok c ∧
      (∃ text, Json.body c.toPayload = .ok text ∧ Json.read text = .ok c.toPayload) ∧
      ∀ (names : FacetNames) (choice : Value),
        ((coerce c.toPayload).bind fun stored =>
            FacetQuery.compile names (Selection.coerce choice) stored)
          = FacetQuery.compile names (Selection.coerce choice) c := by
  obtain ⟨c, hc⟩ := exists_coerce_of_isRaw h
  -- Reading gives the tables, and what is stored is read back to them, so all that follows is about
  -- one catalog.
  have hrows : ∀ t : Table, c.rows t = t.read entries := by
    obtain ⟨-, rfl⟩ := (coerce_eq_ok_iff _ c).mp hc
    intro t
    exact rows_ofRows _ t
  have hstored : coerce c.toPayload = .ok c := by
    rw [coerce_toPayload, stored_of_isRaw h hc]
  refine ⟨c, hc, hrows, c.ofValue_toPayload, hstored, c.read_body_toPayload, ?_⟩
  intro names choice
  rw [hstored]
  rfl

/-- The main fact at a payload with a table under either kind of name, a table that is no list, rows
with a number for an identifier or a name, a row without a name, rows that are no options, and tags
with a kind, with null and with a kind that is no row. -/
theorem coerce_stored_mixed :
    let row (fields : List (Text × Value)) := Value.ofFields fields
    let entries : List (Value × Value) :=
      [(.text "profile_types", .tuple [row [("id", .int 7), ("name", .int 1)], .null,
          row [("name", .text "x")], row [("id", .text "8")]]),
        (.text "profileSectors", .int 3),
        (.text "tags", .list [
          row [("id", .text "t"), ("name", .null),
            ("tagType", row [("id", .int 5), ("name", .text "Chain")])],
          row [("id", .text "u"), ("tagType", .null)],
          row [("id", .text "v"), ("tagType", .text "Chain")]])]
    let types := [Choice.plain "7" (some "1"), .plain "8" none]
    let tags := [Choice.tag "t" none (some (.plain "5" (some "Chain"))), .tag "u" none none,
      .tag "v" none none]
    (Value.map entries).IsRaw ∧
      ∃ c, coerce (.map entries) = .ok c ∧ c = { profileTypes := types, tags := tags } ∧
        coerce c.toPayload = .ok c := by
  intro row entries types tags
  have hraw : (Value.map entries).IsRaw := by simp [entries, row, Value.ofFields]
  obtain ⟨c, hc, -, -, hstored, -⟩ := coerce_stored hraw
  -- The catalog is computed once. That storing keeps it comes from the main fact.
  have hread : coerce (.map entries) = .ok { profileTypes := types, tags := tags } := rfl
  exact ⟨hraw, c, hc, Except.ok.inj (hc.symm.trans hread), hstored⟩

end Catalog

end FacetSearch
