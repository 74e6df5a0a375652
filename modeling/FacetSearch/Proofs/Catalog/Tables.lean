import FacetSearch.Proofs.Catalog.Row

/-!
# `FacetSearch.Proofs.Catalog.Tables`: the tables that a payload gives

A catalog has nine tables, and a payload gives the rows of each under one of two names. A table has
the options that its rows are, in their order, and no row that is none spoils it.

The main fact `coerce_eq_ok_iff` says which values are taken for a catalog, and for which. The only
thing in the way is a plain option among the tags, as a record: the whole payload is refused then
(`hasPlainTag`). A payload that holds no record is never refused (`exists_coerce_of_isRaw`).

Items that can be read pass a check together when each passes it with what is read
(`Checked.items_filter_isSome`), and this gives every table of plain rows (`checkTable_eq`) and that
of the tags (`checkTags_eq_ok_iff`).
-/

set_option autoImplicit false

namespace FacetSearch

/-- The tables of a catalog. -/
inductive Catalog.Table where
  | profileTypes
  | profileSectors
  | profileStatuses
  | productTypes
  | productStatuses
  | assetTypes
  | assetStatuses
  | tagTypes
  | tags
  deriving DecidableEq

/-- The table with the options of a dimension. -/
def Dimension.table : Dimension → Catalog.Table
  | .types => .profileTypes
  | .sectors => .profileSectors
  | .statuses => .profileStatuses
  | .tags => .tags

namespace Catalog

namespace Table

/-- The tables in the order of a catalog. -/
def all : List Table :=
  [.profileTypes, .profileSectors, .profileStatuses, .productTypes, .productStatuses, .assetTypes,
    .assetStatuses, .tagTypes, .tags]

/-- Every table is in the list. -/
theorem mem_all (t : Table) : t ∈ all := by cases t <;> decide

/-- The names of a table in a payload, of which the first wins. -/
def names : Table → Text × Text
  | .profileTypes => ("profileTypes", "profile_types")
  | .profileSectors => ("profileSectors", "profile_sectors")
  | .profileStatuses => ("profileStatuses", "profile_statuses")
  | .productTypes => ("productTypes", "product_types")
  | .productStatuses => ("productStatuses", "product_statuses")
  | .assetTypes => ("assetTypes", "asset_types")
  | .assetStatuses => ("assetStatuses", "asset_statuses")
  | .tagTypes => ("tagTypes", "tag_types")
  | .tags => ("tags", "tags")

/-- The rows that a payload gives for a table. The first name wins even where it stands for
something that is no list or tuple, which gives no rows. -/
def given (t : Table) (payload : Given) : List Value :=
  (((Value.get? payload t.names.1).or (Value.get? payload t.names.2)).bind Value.sequence?).getD []

/-- The option that a row of a table is, if it is one. -/
def row? : Table → Value → Option Choice
  | .tags => Choice.ofTagRow?
  | _ => Choice.ofRow?

/-- The options that a payload gives for a table: the rows that are options, in their order. -/
def read (payload : Given) (t : Table) : List Choice := (t.given payload).filterMap t.row?

end Table

/-- The options of a table. -/
def rows (c : Catalog) : Table → List Choice
  | .profileTypes => c.profileTypes
  | .profileSectors => c.profileSectors
  | .profileStatuses => c.profileStatuses
  | .productTypes => c.productTypes
  | .productStatuses => c.productStatuses
  | .assetTypes => c.assetTypes
  | .assetStatuses => c.assetStatuses
  | .tagTypes => c.tagTypes
  | .tags => c.tags

/-- The catalog with the given options in each table. A catalog is a record of nine lists, and most
of what is said of it is said of one table at a time. -/
def ofRows (rows : Table → List Choice) : Catalog where
  profileTypes := rows .profileTypes
  profileSectors := rows .profileSectors
  profileStatuses := rows .profileStatuses
  productTypes := rows .productTypes
  productStatuses := rows .productStatuses
  assetTypes := rows .assetTypes
  assetStatuses := rows .assetStatuses
  tagTypes := rows .tagTypes
  tags := rows .tags

@[simp]
theorem rows_ofRows (options : Table → List Choice) (t : Table) :
    (ofRows options).rows t = options t := by
  cases t <;> rfl

/-- A catalog is known by the rows of its tables, so catalogs are compared table by table. -/
theorem eq_iff_rows {c d : Catalog} : c = d ↔ ∀ t, c.rows t = d.rows t := by
  constructor
  · rintro rfl t
    rfl
  · intro h
    cases c
    cases d
    simp only [Catalog.mk.injEq]
    exact ⟨h .profileTypes, h .profileSectors, h .profileStatuses, h .productTypes,
      h .productStatuses, h .assetTypes, h .assetStatuses, h .tagTypes, h .tags⟩

/-- The options of a dimension are those of its table. -/
theorem options_eq_rows (c : Catalog) (d : Dimension) : c.options d = c.rows d.table := by
  cases d <;> rfl

end Catalog

/-- A catalog payload with a plain option among its tags, as a record. This is what makes the check
of a payload fail, and the only thing that does (`coerce_eq_ok_iff`). -/
def Value.hasPlainTag : Value → Bool
  | .map entries => (Catalog.Table.tags.given entries).any isPlainChoice
  | _ => false

/-- The options that a value gives for a table when it is taken for a catalog. A value that is
neither a catalog nor a mapping gives none. -/
def Catalog.offered : Value → Catalog.Table → List Choice
  | .catalog tables, t => tables.rows t
  | .map entries, t => t.read entries
  | _, _ => []

/-! ### Checks of tables -/

namespace Checked

variable {α : Type} {check : Value → Checked α}

/-- Items that can be read pass a check together when each passes it with what is read. The filter
and the check are told apart by `read`, which the filter asks whether and the check what. -/
theorem items_filter_isSome {read : Value → Option α}
    (h : ∀ v x, read v = some x → check v = .ok x) (values : List Value) :
    items check (values.filter fun v => (read v).isSome) = .ok (values.filterMap read) := by
  -- Each step of the walk has a check of its own, which differs in the position it reports.
  have hwalk : ∀ step : Nat → Value → Checked α,
      (∀ position v x, read v = some x → step position v = .ok x) →
      all ((values.filter fun v => (read v).isSome).mapIdx step)
        = .ok (values.filterMap read) := by
    induction values with
    | nil => exact fun _ _ => rfl
    | cons v rest ih =>
        intro step hstep
        cases hread : read v with
        | none =>
            rw [List.filter_cons_of_neg (by simp [hread]), List.filterMap_cons_none hread]
            -- The item is filtered out, so the positions of those behind it stay.
            exact ih step hstep
        | some x =>
            rw [List.filter_cons_of_pos (by simp [hread]), List.filterMap_cons_some hread,
              List.mapIdx_cons, all, hstep 0 v x hread,
              ih _ fun position => hstep (position + 1)]
            rfl
  exact hwalk _ fun position v x hread => by rw [h v x hread]; rfl

/-- Of checks that pass together each passes. The check of a list reports the issues of all items,
so it goes on after a failure and the failure stays. -/
theorem exists_of_all {checks : List (Checked α)} {xs : List α} (h : all checks = .ok xs) :
    ∀ c ∈ checks, ∃ x, c = .ok x := by
  induction checks generalizing xs with
  | nil => exact List.forall_mem_nil _
  | cons c rest ih =>
      rw [all] at h
      cases c with
      | error issues => cases hrest : all rest <;> rw [hrest] at h <;> cases h
      | ok x =>
          cases hrest : all rest with
          | error issues => rw [hrest] at h; cases h
          | ok ys => exact List.forall_mem_cons.mpr ⟨⟨x, rfl⟩, ih hrest⟩

/-- Of items that pass a check together each passes it. -/
theorem exists_of_items {values : List Value} {xs : List α} (h : items check values = .ok xs) :
    ∀ v ∈ values, ∃ x, check v = .ok x := by
  intro v hv
  obtain ⟨position, hlt, rfl⟩ := List.getElem_of_mem hv
  obtain ⟨x, hx⟩ := exists_of_all h _ (List.mem_mapIdx.mpr ⟨position, hlt, rfl⟩)
  cases hcheck : check values[position] with
  | ok y => exact ⟨y, rfl⟩
  | error issues =>
      rw [hcheck] at hx
      cases hx

/-- A check of prepared items prepares each item, which lets the clearing of kinds be taken for a
part of the check. -/
theorem items_map (prepare : Value → Value) (values : List Value) :
    items check (values.map prepare) = items (fun v => check (prepare v)) values := by
  refine congrArg all (List.ext_getElem (by simp) fun position h₁ h₂ => ?_)
  simp

end Checked

namespace Catalog

/-- A table of plain rows has the options that its rows are, and its check never fails: what the
filter lets pass, the check takes (`Choice.isOptionRow_eq`, `Choice.checkRow_of_ofRow?`). -/
theorem checkTable_eq (table : Value) :
    checkTable table = .ok ((table.sequence?.getD []).filterMap Choice.ofRow?) := by
  rw [checkTable, optionRows, funext Choice.isOptionRow_eq]
  exact Checked.items_filter_isSome (fun _ _ => Choice.checkRow_of_ofRow?) _

/-- The table of tags has the options that its rows are, and fails its check exactly when a plain
option is among them. -/
theorem checkTags_eq_ok_iff (table : Value) (tags : List Choice) :
    checkTags table = .ok tags
      ↔ (table.sequence?.getD []).any Value.isPlainChoice = false ∧
        tags = (table.sequence?.getD []).filterMap Choice.ofTagRow? := by
  rw [checkTags, Checked.items_map, optionRows]
  cases hplain : (table.sequence?.getD []).any Value.isPlainChoice with
  | true =>
      -- The plain option passes the filter, so it is among the rows that are checked.
      refine ⟨fun hok => ?_, fun h => absurd h.1.symm Bool.false_ne_true⟩
      obtain ⟨row, hrow, hrowPlain⟩ := List.any_eq_true.mp hplain
      have hoption : row.isOptionRow = true := by
        cases row with
        | choice => rfl
        | _ => cases hrowPlain
      obtain ⟨option, hpassed⟩ :=
        Checked.exists_of_items hok row (List.mem_filter.mpr ⟨hrow, hoption⟩)
      rw [Choice.checkTagRow_of_isPlainChoice hrowPlain] at hpassed
      cases hpassed
  | false =>
      -- Without one the filter lets just the tag options pass, and the check takes each of them.
      have hfilter : (table.sequence?.getD []).filter Value.isOptionRow
          = (table.sequence?.getD []).filter fun row => (Choice.ofTagRow? row).isSome := by
        refine List.filter_congr fun row hrow => Choice.isOptionRow_eq_of_not_isPlainChoice ?_
        exact Bool.eq_false_iff.mpr (List.any_eq_false.mp hplain row hrow)
      rw [hfilter, Checked.items_filter_isSome fun _ _ => Choice.checkTagRow_of_ofTagRow?]
      exact ⟨fun h => ⟨rfl, (Except.ok.inj h).symm⟩, fun h => (by rw [h.2])⟩

/-- A table of a payload is looked for under both of its names. The check is that of the name that
is found, and it passes whichever it is. -/
theorem withEitherName_eq (entries : List (Value × Value)) (t : Table) :
    Given.withEitherName entries t.names.1 t.names.2 [] checkTable
      = .ok ((t.given entries).filterMap Choice.ofRow?) := by
  rw [Given.withEitherName, Table.given]
  -- The second name is looked at only when nothing is under the first, and no table is like an
  -- empty one.
  cases Value.get? entries t.names.1 with
  | some table =>
      show ((checkTable table).under (.name t.names.1) : Checked (List Choice)) = _
      rw [checkTable_eq]
      rfl
  | none =>
      rw [Given.withDefault, Option.none_or]
      cases Value.get? entries t.names.2 with
      | some table =>
          show ((checkTable table).under (.name t.names.2) : Checked (List Choice)) = _
          rw [checkTable_eq]
          rfl
      | none => rfl

/-- The tags of a payload fail their check exactly when a plain option is among them. -/
theorem withDefault_tags_eq_ok_iff (entries : List (Value × Value)) (tags : List Choice) :
    Given.withDefault entries "tags" [] checkTags = .ok tags
      ↔ (Value.map entries).hasPlainTag = false ∧ tags = Table.tags.read entries := by
  -- Tags have one name, so the two lookups of a table are the same.
  have hgiven : Table.tags.given entries
      = ((Value.get? entries "tags").bind Value.sequence?).getD [] := by
    rw [Table.given]
    exact congrArg (fun table => (table.bind Value.sequence?).getD []) (Option.or_self)
  rw [Value.hasPlainTag, Table.read, hgiven, Given.withDefault]
  cases Value.get? entries "tags" with
  | none => exact ⟨fun h => ⟨rfl, (Except.ok.inj h).symm⟩, fun h => (by rw [h.2]; rfl)⟩
  | some table =>
      show ((checkTags table).under (.name "tags") : Checked (List Choice)) = .ok tags ↔ _
      rw [Option.bind_some, Table.row?, ← checkTags_eq_ok_iff]
      cases checkTags table with
      | ok rows => exact Iff.rfl
      | error issues => exact ⟨fun h => (by cases h), fun h => (by cases h)⟩

/-- No table but that of the tags can fail the check of a payload, so the check of a payload is that
of its tags. -/
theorem check_eq (entries : List (Value × Value)) :
    check entries = (Given.withDefault entries "tags" [] checkTags).map fun tags =>
      { ofRows fun t => t.read entries with tags := tags } := by
  have h₁ := withEitherName_eq entries .profileTypes
  have h₂ := withEitherName_eq entries .profileSectors
  have h₃ := withEitherName_eq entries .profileStatuses
  have h₄ := withEitherName_eq entries .productTypes
  have h₅ := withEitherName_eq entries .productStatuses
  have h₆ := withEitherName_eq entries .assetTypes
  have h₇ := withEitherName_eq entries .assetStatuses
  have h₈ := withEitherName_eq entries .tagTypes
  -- The eight plain tables pass, so the check is that of the tags.
  simp only [Table.names] at h₁ h₂ h₃ h₄ h₅ h₆ h₇ h₈
  simp only [check, h₁, h₂, h₃, h₄, h₅, h₆, h₇, h₈]
  cases Given.withDefault entries "tags" [] checkTags <;> rfl

/-- **Which values are taken for a catalog, and for which.** A value is taken for the catalog of the
options that it gives for each table. Only a plain option among the tags, as a record, is in the
way. -/
theorem coerce_eq_ok_iff (payload : Value) (c : Catalog) :
    coerce payload = .ok c ↔ payload.hasPlainTag = false ∧ c = ofRows (offered payload) := by
  -- Where nothing is checked the payload is taken for a known catalog.
  have hwhole : ∀ tables : Catalog, coerce payload = .ok tables →
      tables = ofRows (offered payload) → payload.hasPlainTag = false →
      (coerce payload = .ok c ↔ payload.hasPlainTag = false ∧ c = ofRows (offered payload)) := by
    intro tables hok htables hplain
    rw [hok, ← htables, Except.ok.injEq]
    exact ⟨fun h => ⟨hplain, h.symm⟩, fun h => h.2.symm⟩
  cases payload with
  | catalog tables => exact hwhole tables rfl rfl rfl
  | map entries =>
      rw [coerce, check_eq]
      cases htags : Given.withDefault entries "tags" [] checkTags with
      | ok tags =>
          obtain ⟨hplain, rfl⟩ := (withDefault_tags_eq_ok_iff entries tags).mp htags
          exact ⟨fun h => ⟨hplain, (Except.ok.inj h).symm⟩, fun h => (by rw [h.2]; rfl)⟩
      | error issues =>
          refine ⟨fun h => (by cases h), fun h => ?_⟩
          rw [(withDefault_tags_eq_ok_iff entries _).mpr ⟨h.1, rfl⟩] at htags
          cases htags
  | _ => exact hwhole {} rfl rfl rfl

/-- The rows of a raw payload are raw, under whichever name the table stands. -/
theorem isRaw_of_mem_given {entries : List (Value × Value)} (h : (Value.map entries).IsRaw)
    {t : Table} {row : Value} (hrow : row ∈ t.given entries) : row.IsRaw := by
  rw [Table.given] at hrow
  -- The rows come from under one of the two names, and a raw payload is raw under both.
  cases hfirst : Value.get? entries t.names.1 with
  | some table =>
      rw [hfirst] at hrow
      exact (h.of_get? hfirst).of_mem_sequence hrow
  | none =>
      rw [hfirst, Option.none_or] at hrow
      cases hsecond : Value.get? entries t.names.2 with
      | some table =>
          rw [hsecond] at hrow
          exact (h.of_get? hsecond).of_mem_sequence hrow
      | none =>
          rw [hsecond] at hrow
          cases hrow

/-- A raw value has no plain option among its tags, which would be a record. -/
theorem hasPlainTag_of_isRaw {payload : Value} (h : payload.IsRaw) :
    payload.hasPlainTag = false := by
  cases payload with
  | map entries =>
      refine List.any_eq_false.mpr fun row hrow => ?_
      cases isRaw_of_mem_given h hrow <;> exact Bool.false_ne_true
  | _ => rfl

/-- **Every raw value is taken for a catalog.** No row of a raw payload makes the check of a table
fail, and what is no payload is the empty catalog. -/
theorem exists_coerce_of_isRaw {payload : Value} (h : payload.IsRaw) :
    ∃ c, coerce payload = .ok c :=
  ⟨_, (coerce_eq_ok_iff payload _).mpr ⟨hasPlainTag_of_isRaw h, rfl⟩⟩

end Catalog

end FacetSearch
