import FacetSearch.Value.Fields

/-!
# `FacetSearch.Catalog.Payload`: a catalog as the payload that it is read from

A catalog is stored as the mapping of its nine tables under the names of the metadata query. A row
is the mapping of its identifier and its name, and a tag row also has its kind, which is such a row
itself or null. In the place of a plain row a tag row is written with the fields of a plain one.
-/

set_option autoImplicit false

namespace FacetSearch

namespace Choice

/-- The mapping of a row with the fields of a plain row. -/
def plainPayload (c : Choice) : Value :=
  .ofFields [("id", .text c.id), ("name", .ofOptionalText c.name)]

/-- The mapping of a row. A tag has its kind, or null, under the first of the names of the kind. -/
def payload : Choice → Value
  | .plain id name => plainPayload (.plain id name)
  | .tag id name kind =>
      .ofFields [("id", .text id), ("name", .ofOptionalText name),
        ("tagType", (kind.map plainPayload).getD .null)]

end Choice

/-- The mapping of a catalog under the names of the metadata query. It can be stored as JSON and
taken for the catalog again. -/
def Catalog.toPayload (c : Catalog) : Value :=
  let plainRows (rows : List Choice) := Value.list (rows.map Choice.plainPayload)
  .ofFields [("profileTypes", plainRows c.profileTypes),
    ("profileSectors", plainRows c.profileSectors),
    ("profileStatuses", plainRows c.profileStatuses),
    ("productTypes", plainRows c.productTypes),
    ("productStatuses", plainRows c.productStatuses),
    ("assetTypes", plainRows c.assetTypes),
    ("assetStatuses", plainRows c.assetStatuses),
    ("tagTypes", plainRows c.tagTypes),
    ("tags", .list (c.tags.map Choice.payload))]

end FacetSearch
