import FacetSearch.Expr.Where
import FacetSearch.Failure
import FacetSearch.Literal
import FacetSearch.Text.Order
import FacetSearch.Value.Shown

/-!
# `FacetSearch.Literal.OfValue`: the literal of a value

Scalars and containers keep their shape, and the keys of a mapping become
the field names by their plain text. A set has no order of its own, so its items are sorted by their
shown text, which makes equal sets of strings and numbers render alike. What is neither becomes a
string of its plain text.

A record becomes the object of its fields under the names that the service uses. A where expression
becomes its where clause; inside another record it is a record like any other, with its kind first.
A row of the option tables that stands in the field of a plain row, as the kind of a tag does, is
written with the fields of a plain row.

Almost every value has a literal. The exception comes from records becoming objects: an object is no
member of a set, so a set inside a record must hold no record. `Value.isWritable` decides this, and
`Literal.ofValue` is the literal of the values of which it holds.
-/

set_option autoImplicit false

namespace FacetSearch

/-- The literal of a text that may be missing, which is null when it is. -/
def Literal.ofText? : Option Text → Literal
  | none => .null
  | some content => .text content

namespace Choice

/-- The object of a row with the fields of a plain row. A tag that stands where a plain row is
declared loses its kind there. -/
def plainLiteral (c : Choice) : Literal :=
  .object [("id", .text c.id), ("name", .ofText? c.name)]

/-- The object of a row. A tag has its kind under the name that the service uses, and null for a
kind that is missing. -/
def literal : Choice → Literal
  | .plain id name => .object [("id", .text id), ("name", .ofText? name)]
  | .tag id name kind =>
      .object [("id", .text id), ("name", .ofText? name),
        ("tagType", match kind with
          | none => .null
          | some row => row.plainLiteral)]

end Choice

/-- The object of a catalog, under the names of the metadata query. -/
def Catalog.literal (c : Catalog) : Literal :=
  let plainRows (rows : List Choice) := Literal.list (rows.map Choice.plainLiteral)
  .object [("profileTypes", plainRows c.profileTypes),
    ("profileSectors", plainRows c.profileSectors),
    ("profileStatuses", plainRows c.profileStatuses),
    ("productTypes", plainRows c.productTypes),
    ("productStatuses", plainRows c.productStatuses),
    ("assetTypes", plainRows c.assetTypes),
    ("assetStatuses", plainRows c.assetStatuses),
    ("tagTypes", plainRows c.tagTypes),
    ("tags", .list (c.tags.map Choice.literal))]

/-- The object of a count table. -/
def CountTable.literal (t : CountTable) : Literal :=
  let counts (entries : List (Text × Int)) :=
    Literal.object (entries.map fun (id, n) => (id, .int n))
  .object [("types", counts t.types), ("sectors", counts t.sectors),
    ("statuses", counts t.statuses), ("tags", counts t.tags), ("total", .int t.total)]

/-- The object of a configuration. -/
def Config.literal (c : Config) : Literal :=
  .object [("endpoint", .text c.endpoint), ("api_key", .ofText? c.apiKey),
    ("headers", .object (c.headers.map fun (name, value) => (name, .text value))),
    ("timeout", .float c.timeout)]

namespace Literal

/-- Items sorted by their shown text, which is then dropped. The sort is stable, so items with one
text keep their order. -/
def sortedByText (items : List (List CodePoint × Literal)) : List Literal :=
  (items.mergeSort fun a b => textLe a.1 b.1).map (·.2)

/-- One object per step, the first step outermost, around a literal. A path without points is one
step. -/
def nested (steps : List Text) (node : Literal) : Literal :=
  steps.foldr (fun step inner => .object [(step, inner)]) node

mutual

/-- The literal of a value; `inRecord` tells whether it stands inside a record. Only where
expressions are written in two ways, and everything that can hold one passes the flag on. -/
def ofValueIn (inRecord : Bool) : Value → Literal
  | .null => .null
  | .bool flag => .bool flag
  | .int number => .int number
  | .float number => .float number
  | .text content => .text content
  | .dimension d => .dimension d
  | .bytes content => .text (.ofChars (shownBytes content))
  | .decimal number => .text (.ofChars number.text)
  | .foreign content => .text content
  | .list items => .list (ofItems inRecord items)
  | .tuple items => .list (ofItems inRecord items)
  | .set _ items => .list (sortedByText (ofMembers inRecord items))
  | .map entries => .object (ofEntries inRecord entries)
  | .choice row => row.literal
  | .catalog tables => tables.literal
  | .counts table => table.literal
  | .config settings => settings.literal
  | .selection chosen => .object (ofSelection chosen)
  -- A record is taken apart with all that is in it, before an expression could give its where
  -- clause.
  | .expr condition =>
      if inRecord then .object (ofTagged condition) else ofWhere condition
  | .request document => .object (ofRequest document)
  | .page listing => .object (ofPage listing)

/-- The literals of items. -/
def ofItems (inRecord : Bool) : List Value → List Literal
  | [] => []
  | x :: xs => ofValueIn inRecord x :: ofItems inRecord xs

/-- The literals of the members of a set, each with the shown text of the member, which the set is
sorted by. -/
def ofMembers (inRecord : Bool) : List Value → List (List CodePoint × Literal)
  | [] => []
  | x :: xs => (x.shown, ofValueIn inRecord x) :: ofMembers inRecord xs

/-- The fields that the entries of a mapping become. Keys of any kind become names by their plain
text, and two of them may become one name. -/
def ofEntries (inRecord : Bool) : List (Value × Value) → List (Text × Literal)
  | [] => []
  | (key, value) :: rest => (key.plainString, ofValueIn inRecord value) :: ofEntries inRecord rest

/-- The fields that entries with text keys become inside a record, under these keys. -/
def ofNamed : List (Text × Value) → List (Text × Literal)
  | [] => []
  | (name, value) :: rest => (name, ofValueIn true value) :: ofNamed rest

/-- The objects of mappings with text keys inside a record. -/
def ofProfiles : List (List (Text × Value)) → List Literal
  | [] => []
  | profile :: rest => .object (ofNamed profile) :: ofProfiles rest

/-- The literal of the values chosen in one dimension. -/
def ofChosen : Option (List Value) → Literal
  | none => .null
  | some items => .list (ofItems true items)

/-- The fields of a selection. -/
def ofSelection : Selection → List (Text × Literal)
  | ⟨types, sectors, statuses, tags, search⟩ =>
      [("types", ofChosen types), ("sectors", ofChosen sectors), ("statuses", ofChosen statuses),
        ("tags", ofChosen tags), ("search", .ofText? search)]

/-- The fields of a request. -/
def ofRequest : Request → List (Text × Literal)
  | ⟨query, none, name⟩ =>
      [("query", .text query), ("variables", .null), ("operation_name", .ofText? name)]
  | ⟨query, some bindings, name⟩ =>
      [("query", .text query), ("variables", .object (ofNamed bindings)),
        ("operation_name", .ofText? name)]

/-- The fields of a page. -/
def ofPage : Page → List (Text × Literal)
  | ⟨profiles, number, size⟩ =>
      [("profiles", .list (ofProfiles profiles)), ("page", .int number), ("page_size", .int size)]

/-- The where clause of an expression as a literal. It is that of the where mapping, but made
without it. -/
def ofWhere : Expr → Literal
  | .field path operator value =>
      nested (pathSteps path) (.object [(operator, ofValueIn false value)])
  | .all first second rest =>
      .object [("_and", .list (ofWhere first :: ofWhere second :: ofWheres rest))]
  | .everything => .object []

/-- The where clauses of several expressions. -/
def ofWheres : List Expr → List Literal
  | [] => []
  | e :: es => ofWhere e :: ofWheres es

/-- The fields of an expression that stands inside a record: its kind first, then those of the kind.
What a predicate compares with stands inside a record, too. -/
def ofTagged : Expr → List (Text × Literal)
  | .field path operator value =>
      [("kind", .text "field"), ("path", .text path), ("operator", .text operator),
        ("value", ofValueIn true value)]
  | .all first second rest =>
      [("kind", .text "and"),
        ("conditions",
          .list (.object (ofTagged first) :: .object (ofTagged second) :: ofTaggedItems rest))]
  | .everything => [("kind", .text "empty")]

/-- The objects of several expressions inside a record. -/
def ofTaggedItems : List Expr → List Literal
  | [] => []
  | e :: es => .object (ofTagged e) :: ofTaggedItems es

end

/-- The literal of a value, which stands in no record. -/
def ofValue (value : Value) : Literal := ofValueIn false value

end Literal

namespace Value

mutual

/-- Whether a value that may be a member of a set is a record or holds one. Values that cannot be
members do not matter here. -/
def holdsRecord : Value → Bool
  | .tuple items => anyHoldsRecord items
  | .set _ items => anyHoldsRecord items
  | .selection _ => true
  | .expr _ => true
  | _ => false

/-- Whether one of several such values is a record or holds one. -/
def anyHoldsRecord : List Value → Bool
  | [] => false
  | x :: xs => holdsRecord x || anyHoldsRecord xs

end

mutual

/-- Whether a value can be written; `inRecord` tells whether it stands inside a record. Only a set
can keep a value from being written, and only inside a record. -/
def isWritableIn (inRecord : Bool) : Value → Bool
  | .list items => areWritable inRecord items
  | .tuple items => areWritable inRecord items
  -- The record around it becomes an object first, and so would the members, which objects cannot
  -- be.
  | .set _ items => !(inRecord && anyHoldsRecord items) && areWritable inRecord items
  | .map entries => areEntriesWritable inRecord entries
  | .selection ⟨types, sectors, statuses, tags, _⟩ =>
      isChosenWritable types && isChosenWritable sectors && isChosenWritable statuses &&
        isChosenWritable tags
  | .expr condition => isExprWritable inRecord condition
  | .request ⟨_, none, _⟩ => true
  | .request ⟨_, some bindings, _⟩ => areNamedWritable bindings
  | .page ⟨profiles, _, _⟩ => areProfilesWritable profiles
  | _ => true

/-- Whether items can be written. -/
def areWritable (inRecord : Bool) : List Value → Bool
  | [] => true
  | x :: xs => isWritableIn inRecord x && areWritable inRecord xs

/-- Whether the values of entries can be written. -/
def areEntriesWritable (inRecord : Bool) : List (Value × Value) → Bool
  | [] => true
  | (_, value) :: rest => isWritableIn inRecord value && areEntriesWritable inRecord rest

/-- Whether the values of entries with text keys can be written inside a record. -/
def areNamedWritable : List (Text × Value) → Bool
  | [] => true
  | (_, value) :: rest => isWritableIn true value && areNamedWritable rest

/-- Whether mappings with text keys can be written inside a record. -/
def areProfilesWritable : List (List (Text × Value)) → Bool
  | [] => true
  | profile :: rest => areNamedWritable profile && areProfilesWritable rest

/-- Whether the values chosen in one dimension can be written inside a record. -/
def isChosenWritable : Option (List Value) → Bool
  | none => true
  | some items => areWritable true items

/-- Whether a where expression can be written. -/
def isExprWritable (inRecord : Bool) : Expr → Bool
  | .field _ _ value => isWritableIn inRecord value
  | .all first second rest =>
      isExprWritable inRecord first && isExprWritable inRecord second &&
        areExprsWritable inRecord rest
  | .everything => true

/-- Whether where expressions can be written. -/
def areExprsWritable (inRecord : Bool) : List Expr → Bool
  | [] => true
  | e :: es => isExprWritable inRecord e && areExprsWritable inRecord es

end

/-- Whether a value can be written as a query literal. -/
def isWritable (value : Value) : Bool := isWritableIn false value

/-- The literal of a value, if it can be written. There is no partial literal: one set that cannot
be written spoils the whole value. -/
def toLiteral (value : Value) : Except Failure Literal :=
  if value.isWritable then .ok (Literal.ofValue value) else .error .unsupported

/-- The text of a value as a query literal. -/
def literalText (value : Value) : Text := .ofList (Literal.ofValue value).write

end Value

namespace Expr

/-- Whether a where expression can be written as query text. -/
def isWritable (e : Expr) : Bool := e.toWhere.isWritable

/-- The where clause of an expression as query text. -/
def whereText (e : Expr) : Text := e.toWhere.literalText

end Expr

end FacetSearch
