import FacetSearch.Value

/-!
# `FacetSearch.Value.Fields`: what values are made of

A record shows its fields in the order of declaration. Going through a value yields the items of a
container, the keys of a mapping, the characters of a text, the numbers of a byte string, and the
fields of a record, each as a pair of its name and its value.
-/

set_option autoImplicit false

namespace FacetSearch.Value

/-- A text that may be missing, as a value, which is null when it is. -/
def ofOptionalText : Option Text → Value
  | none => .null
  | some content => .text content

/-- A table of rows as a value. -/
def ofRows (table : List Choice) : Value := .list (table.map .choice)

/-- Counts by option id as a value. -/
def ofCounts (entries : List (Text × Int)) : Value :=
  ofFields (entries.map fun (id, n) => (id, .int n))

/-- The values chosen in a dimension as a value. -/
def ofChosen : Option (List Value) → Value
  | none => .null
  | some items => .list items

/-- The fields of a record in the order of declaration, under the names of the record and not those
of a query. -/
def fields? : Value → Option (List (Text × Value))
  | .choice (.plain id name) => some [("id", .text id), ("name", .ofOptionalText name)]
  | .choice (.tag id name kind) =>
      some [("id", .text id), ("name", .ofOptionalText name),
        ("tag_type", (kind.map Value.choice).getD .null)]
  | .catalog c =>
      some [("profile_types", ofRows c.profileTypes), ("profile_sectors", ofRows c.profileSectors),
        ("profile_statuses", ofRows c.profileStatuses), ("product_types", ofRows c.productTypes),
        ("product_statuses", ofRows c.productStatuses), ("asset_types", ofRows c.assetTypes),
        ("asset_statuses", ofRows c.assetStatuses), ("tag_types", ofRows c.tagTypes),
        ("tags", ofRows c.tags)]
  | .counts t =>
      some [("types", ofCounts t.types), ("sectors", ofCounts t.sectors),
        ("statuses", ofCounts t.statuses), ("tags", ofCounts t.tags), ("total", .int t.total)]
  | .config c =>
      some [("endpoint", .text c.endpoint), ("api_key", .ofOptionalText c.apiKey),
        ("headers", ofFields (c.headers.map fun (name, value) => (name, .text value))),
        ("timeout", .float c.timeout)]
  | .selection s =>
      some [("types", ofChosen s.types), ("sectors", ofChosen s.sectors),
        ("statuses", ofChosen s.statuses), ("tags", ofChosen s.tags),
        ("search", .ofOptionalText s.search)]
  | .expr (.field path operator value) =>
      some [("kind", .text "field"), ("path", .text path), ("operator", .text operator),
        ("value", value)]
  | .expr (.all first second rest) =>
      some [("kind", .text "and"), ("conditions", .list ((first :: second :: rest).map .expr))]
  | .expr .everything => some [("kind", .text "empty")]
  | .request r =>
      some [("query", .text r.query), ("variables", (r.bindings.map ofFields).getD .null),
        ("operation_name", .ofOptionalText r.operationName)]
  | .page p =>
      some [("profiles", .list (p.profiles.map ofFields)), ("page", .int p.number),
        ("page_size", .int p.size)]
  | _ => none

/-- What going through a value yields, if it can be gone through. A mapping yields its keys alone,
and a text its characters, each as a text again. -/
def iterated? : Value → Option (List Value)
  | .text content => some (content.toList.map fun point => .text (.ofList [point]))
  | .dimension d => some (d.text.toList.map fun c => .text (.ofChars [c]))
  | .bytes content => some (content.map fun byte => .int byte.toNat)
  | .list items => some items
  | .tuple items => some items
  | .set _ items => some items
  | .map entries => some (entries.map (·.1))
  | other => other.fields?.map fun fields =>
      fields.map fun (name, value) => .tuple [.text name, value]

/-- What a value yields as a list. Texts, byte strings and mappings are taken for one thing, and not
for lists. -/
def listed? : Value → Option (List Value)
  | .text _ => none
  | .dimension _ => none
  | .bytes _ => none
  | .map _ => none
  | other => other.iterated?

end FacetSearch.Value
