import FacetSearch.Choice.Check

/-!
# `FacetSearch.Catalog.Check`: accepting catalogs

A catalog payload is a mapping of tables, each known by two names. A table that is no list is empty,
and a row that could be no option is left out before the rows are checked, so that one bad row does
not spoil a catalog: a row needs an identifier that is a text or a number, and a name that is
missing, null, a text or a number. In a tag row a kind that could be no row is taken for missing.

A row that is an option already passes this filter in every table. A plain one among the tags is
then refused, because a tag table takes tag rows only.
-/

set_option autoImplicit false

namespace FacetSearch

/-- A text or a number, and no flag. -/
def Value.isLabel : Value → Bool
  | .text _ => true
  | .dimension _ => true
  | .int _ => true
  | .float _ => true
  | _ => false

/-- Whether a value under a key is missing or null. -/
def Given.isAbsent (given : Given) (name : Text) : Bool :=
  match Value.get? given name with
  | none => true
  | some .null => true
  | some _ => false

/-- Whether a value under a key is a text or a number. -/
def Given.hasLabel (given : Given) (name : Text) : Bool :=
  ((Value.get? given name).map Value.isLabel).getD false

/-- Whether a value can be an option. -/
def Value.isOptionRow : Value → Bool
  | .choice _ => true
  | .map entries =>
      Given.hasLabel entries "id" &&
        (Given.isAbsent entries "name" || Given.hasLabel entries "name")
  | _ => false

namespace Catalog

/-- The rows of a table that can be options, in their order. Other rows are dropped without a
report, and a table that is no list has none. -/
def optionRows (table : Value) : List Value :=
  (table.sequence?.getD []).filter Value.isOptionRow

/-- A tag row with a kind that could be no row put to null. The kind is looked for under its first
name alone, and null is put there, so it comes before a kind under the second name. -/
def clearKind : Value → Value
  | .map entries =>
      if ((Value.get? entries "tagType").map Value.isOptionRow).getD false then .map entries
      else .map (Entries.putBy Value.sameKey entries (.text "tagType") .null)
  | other => other

/-- Checks a table of plain rows. After the other rows are dropped this cannot fail, but the check
is the one that makes the rows. -/
def checkTable (table : Value) : Checked (List Choice) :=
  Checked.items Choice.checkRow (optionRows table)

/-- Checks the table of tags. A plain option among the tags stays there and fails its check. -/
def checkTags (table : Value) : Checked (List Choice) :=
  Checked.items Choice.checkTagRow ((optionRows table).map clearKind)

/-- Checks the fields of a catalog. The tables are known by two names each, but the tags by one,
which both spellings share. -/
def check (given : Given) : Checked Catalog :=
  let table (first second : Text) := given.withEitherName first second [] checkTable
  ((table "profileTypes" "profile_types").both <|
    (table "profileSectors" "profile_sectors").both <|
    (table "profileStatuses" "profile_statuses").both <|
    (table "productTypes" "product_types").both <|
    (table "productStatuses" "product_statuses").both <|
    (table "assetTypes" "asset_types").both <|
    (table "assetStatuses" "asset_statuses").both <|
    (table "tagTypes" "tag_types").both
      (given.withDefault "tags" [] checkTags)).map
    fun (profileTypes, profileSectors, profileStatuses, productTypes, productStatuses, assetTypes,
        assetStatuses, tagTypes, tags) =>
      { profileTypes, profileSectors, profileStatuses, productTypes, productStatuses, assetTypes,
        assetStatuses, tagTypes, tags }

/-- The name of the record in reports. -/
def recordName : String := "FilterMetadata"

/-- A value that must be a catalog or a catalog payload, as the reply to the metadata query must
be. -/
def ofPayload : Value → Except Failure Catalog
  | .catalog tables => .ok tables
  | .map entries => (check entries).asOutcome recordName
  | _ => (Checked.fault .notRecord : Checked Catalog).asOutcome recordName

/-- A value taken for a catalog: what is neither a catalog nor a payload is the empty catalog. A
payload can still be refused. -/
def coerce : Value → Except Failure Catalog
  | .catalog tables => .ok tables
  | .map entries => (check entries).asOutcome recordName
  | _ => .ok {}

end Catalog

end FacetSearch
