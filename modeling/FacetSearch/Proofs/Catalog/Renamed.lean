import FacetSearch.Facets.Decode
import FacetSearch.Proofs.Catalog.Names
import FacetSearch.Proofs.Catalog.Tables
import FacetSearch.Proofs.Facets.Counts

/-!
# `FacetSearch.Proofs.Catalog.Renamed`: payloads under the other names of their fields

Eight tables of a catalog and the kind of a tag row are known by two names. `Catalog.RenamedPayload`
relates two payloads of which one is the other with keys renamed between the two names of a field.

The tables are read under either name, and so are the rows, with one exception. The filter of tag
rows looks for a kind under its first name alone and puts null there when it finds none, so a kind
under the second name is never read. A row hides its kind in this way (`Value.hidesKind`).

`coerce_renamed` is the main fact. Renaming changes nothing but the kinds of tags, so the text of
every query stays as it is and so do the counts that are decoded, and the catalog stays as it is
exactly when the same rows hide their kinds.
-/

set_option autoImplicit false

namespace FacetSearch

/-- A tag option with a kind under the second name of the kind, where it is not read. A kind that is
no option would not be read under the first name either, so there is nothing to hide then. -/
def Value.hidesKind : Value → Bool
  | .map given =>
      (Choice.ofTagRow? (.map given)).isSome &&
        ((Value.get? given "tag_type").bind Choice.ofRow?).isSome
  | _ => false

namespace Choice

/-- A row without the kind that a tag row may have. It is what renaming leaves of a row in every
case. -/
def withoutKind : Choice → Choice
  | .plain id name => .plain id name
  | .tag id name _ => .tag id name none

@[simp]
theorem id_withoutKind (row : Choice) : row.withoutKind.id = row.id := by
  cases row <;> rfl

/-- What makes a row a placeholder is its name, and never its kind. -/
theorem isPlaceholder_withoutKind (row : Choice) :
    row.withoutKind.isPlaceholder = row.isPlaceholder := by
  cases row <;> rfl

/-- The fields of a tag row, each with its two names. -/
def tagFields : List (Text × Text) := [("id", "id"), ("name", "name"), ("tagType", "tag_type")]

/-- No two fields of a tag row share a name. -/
theorem areApart_tagFields : Given.AreApart tagFields := by
  simp [Given.AreApart, tagFields]

/-- A row that gives every field of a tag row once at most. -/
def GivesOnce (row : Value) : Prop := ∀ given, row = .map given → Given.GivesOnce tagFields given

/-- A row with distinct names gives every field once when it has one name of the kind at most, since
only the kind has two names. -/
theorem GivesOnce.of_fields {pairs : List (Text × Value)} (hnames : (pairs.map (·.1)).Nodup)
    (hfields : ∀ field ∈ tagFields, field.1 ≠ field.2 →
      field.1 ∉ pairs.map (·.1) ∨ field.2 ∉ pairs.map (·.1)) :
    GivesOnce (.map (pairs.map Value.entry)) := by
  rintro given ⟨rfl⟩
  exact .of_fields hnames hfields

/-- A tag row as it was, or with keys renamed. A row that is no mapping has no keys and stays. -/
inductive RenamedRow : Value → Value → Prop
  | same (row : Value) : RenamedRow row row
  | map {given others : Given} (h : Given.Renamed tagFields given others) :
      RenamedRow (.map given) (.map others)

end Choice

/-! ### Tag rows -/

namespace Given

variable {given others : Given}

/-- What a row gives under a name that is the only one of its field stays. -/
theorem get?_tag_renamed (honce : GivesOnce Choice.tagFields given)
    (h : Renamed Choice.tagFields given others) (name : Text)
    (hname : (name, name) ∈ Choice.tagFields) :
    Value.get? others name = Value.get? given name := by
  rw [← field?_one_name, ← field?_one_name]
  exact field?_renamed Choice.areApart_tagFields hname honce h

/-- The kind of a renamed row stays when it is read in both rows or in neither. The left side
compares what is read under the first name, the right side what is there under the second one. -/
theorem kind_renamed_iff (honce : GivesOnce Choice.tagFields given)
    (h : Renamed Choice.tagFields given others) :
    (Value.get? others "tagType").bind Choice.ofRow?
        = (Value.get? given "tagType").bind Choice.ofRow?
      ↔ ((Value.get? others "tag_type").bind Choice.ofRow?).isSome
        = ((Value.get? given "tag_type").bind Choice.ofRow?).isSome := by
  have hmem : (("tagType", "tag_type") : Text × Text) ∈ Choice.tagFields := by decide
  have hgiven := gives_renamed Choice.areApart_tagFields hmem (fun _ _ hentry => hentry.1) h
    (honce.pairwise hmem)
  rcases hgiven with ⟨homits, homits'⟩ | ⟨⟨key, v⟩, ⟨key', v'⟩, ⟨-, rfl⟩, hgives, hgives'⟩
  · -- No kind is given under either name.
    rw [homits "tagType" (by simp), homits "tag_type" (by simp), homits' "tagType" (by simp),
      homits' "tag_type" (by simp)]
    simp
  · -- The kind stands under one name in each row, and is the same value there.
    rw [hgives.get?_eq "tagType" (by simp), hgives.get?_eq "tag_type" (by simp),
      hgives'.get?_eq "tagType" (by simp), hgives'.get?_eq "tag_type" (by simp)]
    rcases hgives.named with hkey | hkey <;> rcases hgives'.named with hkey' | hkey' <;>
      cases hoption : Choice.ofRow? v' <;> simp [hkey, hkey', hoption]

end Given

namespace Choice

variable {row other : Value}

/-- A renamed row is a plain option, as a record, when the row is. -/
theorem RenamedRow.isPlainChoice_eq (h : RenamedRow row other) :
    other.isPlainChoice = row.isPlainChoice := by
  cases h <;> rfl

/-- A renamed row passes the filter of rows when the row does. -/
theorem RenamedRow.isOptionRow_eq (h : RenamedRow row other) (honce : GivesOnce row) :
    other.isOptionRow = row.isOptionRow := by
  cases h with
  | same => rfl
  | @map given others h =>
      have hget := Given.get?_tag_renamed (honce given rfl) h
      simp only [Value.isOptionRow, Given.hasLabel, Given.isAbsent, hget "id" (by decide),
        hget "name" (by decide)]

/-- A renamed row is the same option but for its kind, and the same option exactly when both rows
hide their kinds or neither does. -/
theorem RenamedRow.ofTagRow?_eq_iff (h : RenamedRow row other) (honce : GivesOnce row) :
    (ofTagRow? other).isSome = (ofTagRow? row).isSome ∧
      (ofTagRow? other = ofTagRow? row ↔ other.hidesKind = row.hidesKind) := by
  cases h with
  | same => exact ⟨rfl, Iff.intro (fun _ => rfl) (fun _ => rfl)⟩
  | @map given others h =>
      have hget := Given.get?_tag_renamed (honce given rfl) h
      have hid : Given.label? others "id" = given.label? "id" := by
        rw [Given.label?, Given.label?, hget "id" (by decide)]
      have hname : Given.optionalLabel? others "name" = given.optionalLabel? "name" := by
        rw [Given.optionalLabel?, Given.optionalLabel?, hget "name" (by decide)]
      have hkind := Given.kind_renamed_iff (honce given rfl) h
      simp only [ofTagRow?, Value.hidesKind, hid, hname]
      -- Without an identifier, or with a name that is none, neither row is an option nor hides a
      -- kind.
      cases given.label? "id" with
      | none => simp
      | some id =>
          cases given.optionalLabel? "name" with
          | none => simp
          | some name => simpa using hkind

/-- The check of a renamed row says what it says of the row, but for the kind. Issues of the
identifier and of the name are the same, since these have one name each. -/
theorem RenamedRow.map_checkTagRow (h : RenamedRow row other) (honce : GivesOnce row) :
    (checkTagRow (Catalog.clearKind other)).map withoutKind
      = (checkTagRow (Catalog.clearKind row)).map withoutKind := by
  cases h with
  | same => rfl
  | @map given others h =>
      have hget := Given.get?_tag_renamed (honce given rfl) h
      -- With the kind cleared, a row is checked by its identifier and its name alone.
      have hid : Given.required others "id" Value.checkLabel
          = given.required "id" Value.checkLabel := by
        rw [Given.required, Given.required, hget "id" (by decide)]
      have hname : Given.withDefault others "name" none (Value.checkOptional Value.checkLabel)
          = given.withDefault "name" none (Value.checkOptional Value.checkLabel) := by
        rw [Given.withDefault, Given.withDefault, hget "name" (by decide)]
      rw [checkTagRow_clearKind, checkTagRow_clearKind, hid, hname]
      cases given.required "id" Value.checkLabel <;>
        cases given.withDefault "name" none (Value.checkOptional Value.checkLabel) <;> rfl

end Choice

/-! ### Checks of renamed rows -/

namespace Checked

variable {α β : Type} {f : α → β}

/-- Checks that agree up to a map give lists that agree up to it, failures included. Failures have
no value that the map could change, so to agree up to it is to have the same issues. -/
theorem map_all {checks others : List (Checked α)}
    (h : List.Forall₂ (fun check other => other.map f = check.map f) checks others) :
    (all others).map (List.map f) = (all checks).map (List.map f) := by
  induction h with
  | nil => rfl
  | @cons check other rest later hhead htail ih =>
      unfold all
      -- Both heads pass or fail with the same issues, and so do the rests.
      cases check <;> cases other <;> cases hrest : all rest <;> cases hlater : all later <;>
        simp_all [Except.map, both]

/-- Checks of items in order that agree up to a map give lists that agree up to it. -/
theorem map_items {check : Value → Checked α} {values others : List Value}
    (h : List.Forall₂ (fun v w => (check w).map f = (check v).map f) values others) :
    (items check others).map (List.map f) = (items check values).map (List.map f) := by
  refine map_all (List.forall₂_iff_get.mpr ⟨?_, ?_⟩)
  · simp [h.length_eq]
  · intro position h₁ h₂
    simp only [List.length_mapIdx] at h₁ h₂
    have hat := h.get h₁ h₂
    simp only [List.get_eq_getElem] at hat
    simp only [List.get_eq_getElem, List.getElem_mapIdx]
    cases hv : check values[position] <;> cases hw : check others[position] <;>
      simp_all [Except.map, under]

end Checked

namespace Catalog

/-- The fields of a payload, each with its two names. The tags have one name, which stands here
twice. -/
def tableFields : List (Text × Text) := Table.all.map Table.names

/-- Two tables do not have the same names. -/
theorem Table.names_injective : Function.Injective names := by
  intro t u h
  cases t <;> cases u <;> simp_all [names]

/-- No two tables share a name. -/
theorem areApart_tableFields : Given.AreApart tableFields := by
  simp [Given.AreApart, tableFields, Table.all, Table.names]

/-- Every table is a field of a payload. -/
theorem names_mem_tableFields (t : Table) : t.names ∈ tableFields :=
  List.mem_map_of_mem t.mem_all

/-- The rows of the tags as they were, or with keys renamed. -/
inductive RenamedTags : Value → Value → Prop
  | same (table : Value) : RenamedTags table table
  | list {rows others : List Value} (h : List.Forall₂ Choice.RenamedRow rows others) :
      RenamedTags (.list rows) (.list others)
  | tuple {rows others : List Value} (h : List.Forall₂ Choice.RenamedRow rows others) :
      RenamedTags (.tuple rows) (.tuple others)

/-- An entry of a payload with its key renamed or not. Under the tags, keys of rows are renamed too,
and every other entry keeps its value. -/
structure RenamedEntry (entry other : Value × Value) : Prop where
  key : Given.SameField tableFields entry.1 other.1
  tags : entry.1.IsNameOf Table.tags.names → RenamedTags entry.2 other.2
  table : ¬ entry.1.IsNameOf Table.tags.names → other.2 = entry.2

/-- A payload with any of its keys renamed between the two names of a field. -/
def RenamedPayload (entries others : List (Value × Value)) : Prop :=
  List.Forall₂ RenamedEntry entries others

/-- A payload that gives every field once at most, those of its tag rows included. Where a field is
given twice the first name wins, so swapping its two keys would change what is read. -/
structure GivesOnce (entries : List (Value × Value)) : Prop where
  tables : Given.GivesOnce tableFields entries
  rows : ∀ row ∈ Table.tags.given entries, Choice.GivesOnce row

/-- The catalog with the tags without their kinds. All that a query and its counts depend on is
still there. -/
def withoutKinds (c : Catalog) : Catalog := { c with tags := c.tags.map Choice.withoutKind }

/-- Which tag rows of a payload hide their kinds, in the order of the rows. -/
def hidden (entries : List (Value × Value)) : List Bool :=
  (Table.tags.given entries).map Value.hidesKind

/-- The rows of a table, by what is given for it. -/
theorem Table.given_eq (t : Table) (entries : List (Value × Value)) :
    t.given entries = ((Given.field? entries t.names).bind Value.sequence?).getD [] := rfl

/-- The rows of renamed tags are renamed one by one. -/
theorem RenamedTags.forall₂ {table other : Value} (h : RenamedTags table other) :
    List.Forall₂ Choice.RenamedRow (table.sequence?.getD []) (other.sequence?.getD []) := by
  cases h with
  | same => exact List.forall₂_same.mpr fun row _ => .same row
  | list h => exact h
  | tuple h => exact h

/-- Renamed rows are the same tag options when the same rows hide their kinds. Rows that are no
options are left out of both lists in the same places, so equal lists of options are equal row by
row. -/
theorem filterMap_ofTagRow?_renamed_iff {rows others : List Value}
    (h : List.Forall₂ (fun row other => Choice.GivesOnce row ∧ Choice.RenamedRow row other)
      rows others) :
    others.filterMap Choice.ofTagRow? = rows.filterMap Choice.ofTagRow?
      ↔ others.map Value.hidesKind = rows.map Value.hidesKind := by
  induction h with
  | nil => simp
  | @cons row other rest later hhead htail ih =>
      obtain ⟨hsome, hiff⟩ := hhead.2.ofTagRow?_eq_iff hhead.1
      rw [List.map_cons, List.map_cons, List.cons.injEq, ← hiff, ← ih]
      -- Both heads are options, and are compared, or neither is.
      cases hrow : Choice.ofTagRow? row with
      | none =>
          have hother : Choice.ofTagRow? other = none := by simpa [hrow] using hsome
          simp [hrow, hother]
      | some option =>
          obtain ⟨option', hother⟩ : ∃ option', Choice.ofTagRow? other = some option' := by
            simpa [hrow, Option.isSome_iff_exists] using hsome
          simp [hrow, hother]

/-- Renamed rows have a plain option among them, as a record, when the rows have one. -/
theorem any_isPlainChoice_renamed {rows others : List Value}
    (h : List.Forall₂ (fun row other => Choice.GivesOnce row ∧ Choice.RenamedRow row other)
      rows others) :
    others.any Value.isPlainChoice = rows.any Value.isPlainChoice := by
  induction h with
  | nil => rfl
  | cons hhead _ ih => rw [List.any_cons, List.any_cons, ih, hhead.2.isPlainChoice_eq]

section Renamed

variable {entries others : List (Value × Value)}

/-- The entry that gives a table, before and after a renaming, stands in one place. -/
theorem gives_table_renamed (honce : GivesOnce entries) (h : RenamedPayload entries others)
    (t : Table) :
    (Given.Omits entries t.names ∧ Given.Omits others t.names) ∨
      ∃ entry other, RenamedEntry entry other ∧ Given.Gives entries t.names entry ∧
        Given.Gives others t.names other :=
  Given.gives_renamed areApart_tableFields (names_mem_tableFields t) (fun _ _ hentry => hentry.key)
    h (honce.tables.pairwise (names_mem_tableFields t))

/-- A table of plain rows has the rows that it had. -/
theorem given_renamed (honce : GivesOnce entries) (h : RenamedPayload entries others) {t : Table}
    (ht : t ≠ .tags) : t.given others = t.given entries := by
  rw [Table.given_eq, Table.given_eq]
  rcases gives_table_renamed honce h t with
    ⟨homits, homits'⟩ | ⟨entry, other, hentry, hgives, hgives'⟩
  · rw [homits.field?_eq, homits'.field?_eq]
  · -- A key that gives this table does not give the tags.
    have hnot : ¬ entry.1.IsNameOf Table.tags.names := by
      intro htags
      have hnames : t.names = Table.tags.names := areApart_tableFields.eq_of_isNameOf
        (names_mem_tableFields t) (names_mem_tableFields .tags) hgives.named htags
      exact ht (Table.names_injective hnames)
    rw [hgives.field?_eq, hgives'.field?_eq, hentry.table hnot]

/-- The rows of the tags are renamed one by one. -/
theorem forall₂_tags_renamed (honce : GivesOnce entries) (h : RenamedPayload entries others) :
    List.Forall₂ (fun row other => Choice.GivesOnce row ∧ Choice.RenamedRow row other)
      (Table.tags.given entries) (Table.tags.given others) := by
  refine (List.forall₂_and_left _ _).mpr ⟨honce.rows, ?_⟩
  rw [Table.given_eq, Table.given_eq]
  -- The rows are those of the entry that gives the tags, if there is one.
  rcases gives_table_renamed honce h .tags with
    ⟨homits, homits'⟩ | ⟨entry, other, hentry, hgives, hgives'⟩
  · rw [homits.field?_eq, homits'.field?_eq]
    exact .nil
  · rw [hgives.field?_eq, hgives'.field?_eq]
    exact (hentry.tags hgives.named).forall₂

/-- The check of renamed tags says what it says of the tags, but for the kinds. -/
theorem RenamedTags.map_checkTags {table other : Value} (h : RenamedTags table other)
    (honce : ∀ row ∈ table.sequence?.getD [], Choice.GivesOnce row) :
    (checkTags other).map (List.map Choice.withoutKind)
      = (checkTags table).map (List.map Choice.withoutKind) := by
  have hrows := (List.forall₂_and_left _ _).mpr ⟨honce, h.forall₂⟩
  rw [checkTags, checkTags, Checked.items_map, Checked.items_map, optionRows, optionRows]
  refine Checked.map_items ?_
  -- The filter takes the same places of both lists.
  have hfiltered := List.rel_filter (p := Value.isOptionRow) (q := Value.isOptionRow)
    (fun row other hrow => by
      show row.isOptionRow = true ↔ other.isOptionRow = true
      rw [hrow.2.isOptionRow_eq hrow.1]) hrows
  exact hfiltered.imp fun row other hrow => hrow.2.map_checkTagRow hrow.1

/-- Renaming changes nothing of what the check of the tags says but the kinds. The tags themselves
have one name, so the check finds them where it found them. -/
theorem map_withDefault_tags_renamed (honce : GivesOnce entries)
    (h : RenamedPayload entries others) :
    (Given.withDefault others "tags" [] checkTags).map (List.map Choice.withoutKind)
      = (Given.withDefault entries "tags" [] checkTags).map (List.map Choice.withoutKind) := by
  have hgiven : ∀ payload : List (Value × Value),
      Value.get? payload "tags" = Given.field? payload Table.tags.names := fun payload =>
    (Given.field?_one_name payload "tags").symm
  have honceRows := honce.rows
  rw [Table.given_eq] at honceRows
  unfold Given.withDefault
  rw [hgiven, hgiven]
  rcases gives_table_renamed honce h .tags with
    ⟨homits, homits'⟩ | ⟨entry, other, hentry, hgives, hgives'⟩
  · rw [homits.field?_eq, homits'.field?_eq]
  · rw [hgives.field?_eq, Option.bind_some] at honceRows
    have hmap := (hentry.tags hgives.named).map_checkTags honceRows
    rw [hgives.field?_eq, hgives'.field?_eq]
    -- A failure keeps its path, and a success the options without their kinds.
    cases hchecked : checkTags entry.2 <;> cases hchecked' : checkTags other.2 <;>
      simp_all [Except.map, Checked.under]

/-- Renaming changes nothing of a catalog but the kinds of its tags, and no failure. Tables of plain
rows keep their rows, and the check of the tags says the same but for the kinds. -/
theorem map_coerce_renamed (honce : GivesOnce entries) (h : RenamedPayload entries others) :
    (coerce (.map others)).map withoutKinds = (coerce (.map entries)).map withoutKinds := by
  -- Apart from the tags the two catalogs have the same tables.
  have hother : ∀ tags : List Choice, { ofRows fun t => t.read others with tags := tags }
      = { ofRows fun t => t.read entries with tags := tags } := by
    intro tags
    refine eq_iff_rows.mpr fun t => ?_
    have hread : t ≠ .tags → t.read others = t.read entries := fun ht => by
      rw [Table.read, Table.read, given_renamed honce h ht]
    cases t with
    | tags => rfl
    | _ => exact hread (by decide)
  have htags := map_withDefault_tags_renamed honce h
  rw [coerce, coerce, check_eq, check_eq]
  cases hchecked : Given.withDefault entries "tags" [] checkTags <;>
    cases hchecked' : Given.withDefault others "tags" [] checkTags <;>
    simp_all [Except.map, Checked.asOutcome, withoutKinds]

/-- A renamed payload has a plain option among its tags, as a record, when the payload has one. -/
theorem hasPlainTag_renamed (honce : GivesOnce entries) (h : RenamedPayload entries others) :
    (Value.map others).hasPlainTag = (Value.map entries).hasPlainTag :=
  any_isPlainChoice_renamed (forall₂_tags_renamed honce h)

/-- A renamed payload gives the same tags when the same rows hide their kinds. -/
theorem read_tags_renamed_iff (honce : GivesOnce entries) (h : RenamedPayload entries others) :
    Table.tags.read others = Table.tags.read entries ↔ hidden others = hidden entries :=
  filterMap_ofTagRow?_renamed_iff (forall₂_tags_renamed honce h)

end Renamed

end Catalog

/-! ### Queries -/

namespace FacetQuery

/-- What numbered options give by their ids depends on the ids alone. Both the fields of a query and
the counts of a reply go through the options in this way. -/
theorem mapIdx_of_ids {α : Type} {rows others : List Choice}
    (h : others.map Choice.id = rows.map Choice.id) (f : Nat → Text → α) :
    others.mapIdx (fun position row => f position row.id)
      = rows.mapIdx fun position row => f position row.id := by
  have hids : ∀ options : List Choice, options.mapIdx (fun position row => f position row.id)
      = (options.map Choice.id).mapIdx f := by
    intro options
    refine List.ext_getElem (by simp) fun position h₁ h₂ => ?_
    simp
  rw [hids, hids, h]

/-- The fields of a query depend on the ids of its options alone. -/
theorem fields_of_ids (s : Selection) {options others : FacetOptions}
    (h : ∀ d, (others d).map Choice.id = (options d).map Choice.id) :
    fields s others = fields s options := by
  have hdimension : ∀ d, dimensionFields s others d = dimensionFields s options d := fun d =>
    mapIdx_of_ids (h d) fun position id => (d.aliasAt position, idExpr s d id)
  rw [fields, fields, funext hdimension]

end FacetQuery

/-- A decoded table depends on the ids of the options alone. -/
theorem FacetOptions.decode_of_ids {options others : FacetOptions}
    (h : ∀ d, (others d).map Choice.id = (options d).map Choice.id) (raw : Value) :
    decode others raw = decode options raw := by
  have hdimension : ∀ entries d,
      dimensionCounts others entries d = dimensionCounts options entries d := by
    intro entries d
    have hnamed := FacetQuery.mapIdx_of_ids (h d) fun position id => (d.aliasAt position, id)
    unfold dimensionCounts
    rw [hnamed]
  simp only [decode, hdimension]

namespace Catalog

/-- The options that a query counts have the ids that they have without the kinds. -/
theorem map_id_facetOptions (c : Catalog) (d : Dimension) :
    (c.withoutKinds.facetOptions d).map Choice.id = (c.facetOptions d).map Choice.id := by
  cases d with
  | tags =>
      -- Blank names are left out by the name alone, so dropping the kinds first makes no
      -- difference.
      have hfilter : c.withoutKinds.facetOptions .tags
          = (c.facetOptions .tags).map Choice.withoutKind := by
        simp only [facetOptions, options, withoutKinds, List.filter_map, Function.comp_def,
          Choice.isPlaceholder_withoutKind]
      rw [hfilter, List.map_map]
      exact List.map_congr_left fun row _ => row.id_withoutKind
  | _ => rfl

/-- Catalogs that differ in the kinds of tags alone give queries with one text and the same aliases,
and every reply is decoded to the same counts. -/
theorem compile_of_withoutKinds (names : FacetNames) (s : Selection) {c d : Catalog}
    (h : d.withoutKinds = c.withoutKinds) :
    (FacetQuery.compile names s d).map (fun q => (q.text, q.aliases))
        = (FacetQuery.compile names s c).map (fun q => (q.text, q.aliases)) ∧
      ∀ raw, (FacetQuery.compile names s d).bind (·.decode raw)
        = (FacetQuery.compile names s c).bind (·.decode raw) := by
  have hids : ∀ e, (d.facetOptions e).map Choice.id = (c.facetOptions e).map Choice.id := by
    intro e
    rw [← map_id_facetOptions, h, map_id_facetOptions]
  unfold FacetQuery.compile
  -- Whether a query can be written depends on the selection and not on the catalog.
  by_cases hwritable : s.toExpr.isWritable = true
  · rw [if_pos hwritable, if_pos hwritable]
    refine ⟨congrArg Except.ok ?_, fun raw => FacetOptions.decode_of_ids hids raw⟩
    simp only [FacetQuery.ofOptions, FacetQuery.fields_of_ids s hids]
  · rw [if_neg hwritable, if_neg hwritable]
    exact ⟨rfl, fun _ => rfl⟩

section Renamed

variable {entries others : List (Value × Value)}

/-- A payload is refused as it was when it had a plain option among its tags, as a record, and it is
taken for the same catalog when the same tag rows hide their kinds as before. -/
theorem coerce_eq_of_renamed (honce : GivesOnce entries) (h : RenamedPayload entries others)
    (hsame : (Value.map entries).hasPlainTag = true ∨ hidden others = hidden entries) :
    coerce (.map others) = coerce (.map entries) := by
  have hmap := map_coerce_renamed honce h
  cases hc : coerce (.map entries) with
  | error failure => cases hc' : coerce (.map others) <;> simp_all [Except.map]
  | ok c =>
      obtain ⟨hplain, rfl⟩ := (coerce_eq_ok_iff _ c).mp hc
      have hhidden : hidden others = hidden entries := hsame.resolve_left (by simp [hplain])
      refine (coerce_eq_ok_iff _ _).mpr ⟨(hasPlainTag_renamed honce h).trans hplain, ?_⟩
      refine eq_iff_rows.mpr fun t => ?_
      rw [rows_ofRows, rows_ofRows]
      -- The tags are the same as the same rows hide their kinds, and the other tables in any case.
      by_cases ht : t = .tags
      · rw [ht]
        exact ((read_tags_renamed_iff honce h).mpr hhidden).symm
      · show t.read entries = t.read others
        rw [Table.read, Table.read, given_renamed honce h ht]

/-- A payload that is not refused is taken for the same catalog only when the same tag rows hide
their kinds as before. A row that hides its kind now and did not before is an option with a kind in
the one catalog and without it in the other. -/
theorem hidden_eq_of_coerce_eq (honce : GivesOnce entries) (h : RenamedPayload entries others)
    (hplain : (Value.map entries).hasPlainTag = false)
    (heq : coerce (.map others) = coerce (.map entries)) : hidden others = hidden entries := by
  have hc := (coerce_eq_ok_iff (.map entries) _).mpr ⟨hplain, rfl⟩
  obtain ⟨-, hrows⟩ := (coerce_eq_ok_iff _ _).mp (heq.trans hc)
  have htags := eq_iff_rows.mp hrows .tags
  rw [rows_ofRows, rows_ofRows] at htags
  exact (read_tags_renamed_iff honce h).mp htags.symm

/-- **What renaming changes.** Take a payload that gives every field once, and rename any of its
keys between the two names of a field, those of its tag rows included.

* It is taken for the same catalog, or refused in the same way, when the same tag rows hide their
  kinds as before, and in no other case unless it is refused. Then every selection compiles to the
  same query.
* In every case it is taken for the same catalog but for the kinds of tags. So every selection
  compiles to a query with the same text and the same aliases, and every reply is decoded to the
  same counts. -/
theorem coerce_renamed (honce : GivesOnce entries) (h : RenamedPayload entries others) :
    (coerce (.map others) = coerce (.map entries) ↔
      (Value.map entries).hasPlainTag = true ∨ hidden others = hidden entries) ∧
    (hidden others = hidden entries → ∀ names choice,
      (coerce (.map others)).bind (FacetQuery.compile names (Selection.coerce choice))
        = (coerce (.map entries)).bind (FacetQuery.compile names (Selection.coerce choice))) ∧
    (coerce (.map others)).map withoutKinds = (coerce (.map entries)).map withoutKinds ∧
    ∀ names choice,
      ((coerce (.map others)).bind fun c =>
          (FacetQuery.compile names (Selection.coerce choice) c).map fun q => (q.text, q.aliases))
        = ((coerce (.map entries)).bind fun c =>
          (FacetQuery.compile names (Selection.coerce choice) c).map fun q =>
            (q.text, q.aliases)) ∧
      ∀ raw,
        ((coerce (.map others)).bind fun c =>
            (FacetQuery.compile names (Selection.coerce choice) c).bind (·.decode raw))
          = (coerce (.map entries)).bind fun c =>
            (FacetQuery.compile names (Selection.coerce choice) c).bind (·.decode raw) := by
  have hmap := map_coerce_renamed honce h
  refine ⟨⟨fun heq => ?_, coerce_eq_of_renamed honce h⟩, ?_, hmap, ?_⟩
  · by_cases hplain : (Value.map entries).hasPlainTag = true
    · exact .inl hplain
    · exact .inr (hidden_eq_of_coerce_eq honce h (Bool.eq_false_iff.mpr hplain) heq)
  · intro hhidden names choice
    rw [coerce_eq_of_renamed honce h (.inr hhidden)]
  · intro names choice
    -- Both payloads are refused alike, or taken for catalogs that differ in the kinds alone.
    cases hc : coerce (.map entries) with
    | error failure => cases hc' : coerce (.map others) <;> simp_all [Except.map, Except.bind]
    | ok c =>
        cases hc' : coerce (.map others) with
        | error failure => simp_all [Except.map]
        | ok c' =>
            rw [hc, hc'] at hmap
            exact compile_of_withoutKinds names _ (Except.ok.inj hmap)

end Renamed

/-- The main fact at a payload with a table and the kinds of two tags renamed. One of these kinds is
null and the other no option. A third tag has an option for its kind, under the name it had. -/
theorem coerce_renamed_unread_kinds :
    let row (fields : List (Text × Value)) := Value.map (fields.map Value.entry)
    let kind := row [("id", .int 5), ("name", .text "Chain")]
    let fields (types first second : Text) : List (Text × Value) :=
      [("tags", .list [row [("id", .text "t"), (first, .null)],
          row [("id", .text "u"), (second, .int 5)], row [("id", .text "v"), ("tagType", kind)]]),
        (types, .list [row [("id", .int 7), ("name", .text "A")]])]
    let payload (types first second : Text) := (fields types first second).map Value.entry
    let entries := payload "profileTypes" "tagType" "tag_type"
    let others := payload "profile_types" "tag_type" "tagType"
    GivesOnce entries ∧ RenamedPayload entries others ∧ hidden others = hidden entries ∧
      coerce (.map others) = coerce (.map entries) := by
  intro row kind fields payload entries others
  have honce : GivesOnce entries := by
    refine ⟨.of_fields (by decide) (by simp [fields, tableFields, Table.all, Table.names]), ?_⟩
    have hrows : Table.tags.given entries = [row [("id", .text "t"), ("tagType", .null)],
        row [("id", .text "u"), ("tag_type", .int 5)],
        row [("id", .text "v"), ("tagType", kind)]] := rfl
    rw [hrows]
    simp only [List.forall_mem_cons]
    exact ⟨.of_fields (by decide) (by decide), .of_fields (by decide) (by decide),
      .of_fields (by decide) (by decide), List.forall_mem_nil _⟩
  have hkind : (("tagType", "tag_type") : Text × Text) ∈ Choice.tagFields := by decide
  have hrenamed : RenamedPayload entries others :=
    .cons ⟨.inl rfl, fun _ => .list
        (.cons (.map (.cons ⟨.inl rfl, rfl⟩
          (.cons ⟨.inr ⟨_, hkind, .inl rfl, .inr rfl⟩, rfl⟩ .nil)))
        (.cons (.map (.cons ⟨.inl rfl, rfl⟩
          (.cons ⟨.inr ⟨_, hkind, .inr rfl, .inl rfl⟩, rfl⟩ .nil)))
        (.cons (.same _) .nil))), fun hnot => absurd (.inl rfl) hnot⟩
    (.cons ⟨.inr ⟨_, names_mem_tableFields .profileTypes, .inl rfl, .inr rfl⟩,
      fun htags => absurd htags (by decide), fun _ => rfl⟩ .nil)
  -- Neither kind is an option under either name, so no kind is read that renaming could hide.
  have hhidden : hidden others = hidden entries := by decide
  exact ⟨honce, hrenamed, hhidden, (coerce_renamed honce hrenamed).1.mpr (.inr hhidden)⟩

/-- A kind is lost by renaming: a tag keeps its kind under the first name and not under the second,
although a tag row takes a kind under either. -/
theorem coerce_hidden_kind :
    let row (fields : List (Text × Value)) := Value.map (fields.map Value.entry)
    let kind : List (Text × Value) := [("id", .text "t"), ("name", .text "Chain")]
    let tag (name : Text) : List (Text × Value) :=
      [("id", .text "7"), ("name", .text "S"), (name, row kind)]
    let payload (name : Text) :=
      [(Text.ofString "tags", Value.list [row (tag name)])].map Value.entry
    GivesOnce (payload "tagType") ∧ RenamedPayload (payload "tagType") (payload "tag_type") ∧
      Choice.checkTagRow (row (tag "tag_type")) = Choice.checkTagRow (row (tag "tagType")) ∧
      coerce (.map (payload "tagType"))
        = .ok { tags := [.tag "7" (some "S") (some (.plain "t" (some "Chain")))] } ∧
      coerce (.map (payload "tag_type")) = .ok { tags := [.tag "7" (some "S") none] } ∧
      coerce (.map (payload "tag_type")) ≠ coerce (.map (payload "tagType")) := by
  intro row kind tag payload
  have honce : GivesOnce (payload "tagType") := by
    refine ⟨.of_fields (by decide) (by simp [tableFields, Table.all, Table.names]), ?_⟩
    have hrows : Table.tags.given (payload "tagType") = [row (tag "tagType")] := rfl
    rw [hrows]
    simp only [List.forall_mem_singleton]
    exact .of_fields (by decide) (by decide)
  have hkind : (("tagType", "tag_type") : Text × Text) ∈ Choice.tagFields := by decide
  have hrenamed : RenamedPayload (payload "tagType") (payload "tag_type") :=
    .cons ⟨.inl rfl, fun _ => .list (.cons (.map (.cons ⟨.inl rfl, rfl⟩ (.cons ⟨.inl rfl, rfl⟩
      (.cons ⟨.inr ⟨_, hkind, .inl rfl, .inr rfl⟩, rfl⟩ .nil)))) .nil),
      fun hnot => absurd (.inl rfl) hnot⟩ .nil
  -- The two catalogs are computed. They differ in the kind of the one tag.
  have hfirst : coerce (.map (payload "tagType"))
      = .ok { tags := [.tag "7" (some "S") (some (.plain "t" (some "Chain")))] } := rfl
  have hsecond : coerce (.map (payload "tag_type"))
      = .ok { tags := [.tag "7" (some "S") none] } := rfl
  refine ⟨honce, hrenamed, rfl, hfirst, hsecond, fun heq => ?_⟩
  rw [hfirst, hsecond] at heq
  cases heq

end Catalog

end FacetSearch
