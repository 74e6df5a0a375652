import FacetSearch.Text.Joined
import FacetSearch.Text.Quoted
import FacetSearch.Value

/-!
# `FacetSearch.Value.Shown`: values inside messages and keys

A value is shown the way it would be written down: strings quoted, containers in brackets, records
by their name with the fields in order. `Value.shown` is this form; `Value.plainText` is the text of
a value on its own, which differs for strings, dimensions, decimals, foreign objects and records.
-/

set_option autoImplicit false

namespace FacetSearch

/-- A flag as it is shown, by its name with a capital. -/
def shownFlag (flag : Bool) : List CodePoint :=
  if flag then "True".toList.map .char else "False".toList.map .char

/-- A text as it is shown: in quotes, with escapes for what could not be told inside of them. -/
def shownText (content : Text) : List CodePoint := (shownQuoted content.toList).map .char

/-- A missing value as it is shown, and a present one by `f`. -/
def shownOption {α : Type} (f : α → List CodePoint) : Option α → List CodePoint
  | none => "None".toList.map .char
  | some x => f x

/-- Items in square brackets, with commas and blanks between them. -/
def bracketed (pieces : List (List CodePoint)) : List CodePoint :=
  .char '[' :: (commaJoined pieces ++ [.char ']'])

/-- A tuple: one item alone keeps its comma, which tells it from an item in parentheses. -/
def shownTuple : List (List CodePoint) → List CodePoint
  | [piece] => .char '(' :: (piece ++ [.char ',', .char ')'])
  | pieces => .char '(' :: (commaJoined pieces ++ [.char ')'])

/-- A set, with its members in the order that it holds them. The empty one has no braces, which
would be those of a mapping, and a frozen one says so. -/
def shownSet (frozen : Bool) : List (List CodePoint) → List CodePoint
  | [] => if frozen then "frozenset()".toList.map .char else "set()".toList.map .char
  | pieces =>
      let braced := .char '\x7b' :: (commaJoined pieces ++ [.char '\x7d'])
      if frozen then ("frozenset(" : Text).toList ++ braced ++ [.char ')'] else braced

/-- An entry of a mapping. -/
def shownEntry (key value : List CodePoint) : List CodePoint :=
  key ++ .char ':' :: .char ' ' :: value

/-- A mapping, from its shown entries. Without entries there are the braces alone. -/
def shownMap (pieces : List (List CodePoint)) : List CodePoint :=
  .char '\x7b' :: (commaJoined pieces ++ [.char '\x7d'])

/-- A named field of a record. -/
def shownField (name : Text) (value : List CodePoint) : List CodePoint :=
  name.toList ++ .char '=' :: value

/-- A record by its name, from its shown fields, the way it would be made. -/
def shownRecord (name : Text) (fields : List (List CodePoint)) : List CodePoint :=
  name.toList ++ .char '(' :: (commaJoined fields ++ [.char ')'])

namespace Choice

/-- The name of the record that a row is. -/
def recordName : Choice → String
  | .plain .. => "FilterOption"
  | .tag .. => "TagOption"

/-- The fields of a row, shown, those that are missing too. The kind of a tag is shown as the row
that it is. -/
def shownFields : Choice → List (List CodePoint)
  | .plain id name =>
      [shownField "id" (shownText id), shownField "name" (shownOption shownText name)]
  | .tag id name none =>
      [shownField "id" (shownText id), shownField "name" (shownOption shownText name),
        shownField "tag_type" ("None".toList.map .char)]
  | .tag id name (some kind) =>
      [shownField "id" (shownText id), shownField "name" (shownOption shownText name),
        shownField "tag_type" (shownRecord kind.recordName kind.shownFields)]

/-- A row as it is shown. -/
def shown (c : Choice) : List CodePoint := shownRecord c.recordName c.shownFields

end Choice

/-- The fields of a catalog, shown, with the nine tables in the order of declaration. -/
def Catalog.shownFields (c : Catalog) : List (List CodePoint) :=
  let rows (table : List Choice) := bracketed (table.map Choice.shown)
  [shownField "profile_types" (rows c.profileTypes),
    shownField "profile_sectors" (rows c.profileSectors),
    shownField "profile_statuses" (rows c.profileStatuses),
    shownField "product_types" (rows c.productTypes),
    shownField "product_statuses" (rows c.productStatuses),
    shownField "asset_types" (rows c.assetTypes),
    shownField "asset_statuses" (rows c.assetStatuses),
    shownField "tag_types" (rows c.tagTypes),
    shownField "tags" (rows c.tags)]

/-- The fields of a count table, shown. -/
def CountTable.shownFields (t : CountTable) : List (List CodePoint) :=
  let counts (entries : List (Text × Int)) :=
    shownMap (entries.map fun (id, n) => shownEntry (shownText id) ((integerText n).map .char))
  [shownField "types" (counts t.types), shownField "sectors" (counts t.sectors),
    shownField "statuses" (counts t.statuses), shownField "tags" (counts t.tags),
    shownField "total" ((integerText t.total).map .char)]

/-- The fields of a configuration, shown. -/
def Config.shownFields (c : Config) : List (List CodePoint) :=
  [shownField "endpoint" (shownText c.endpoint),
    shownField "api_key" (shownOption shownText c.apiKey),
    shownField "headers"
      (shownMap (c.headers.map fun (name, value) => shownEntry (shownText name) (shownText value))),
    shownField "timeout" (c.timeout.text.map .char)]

namespace Value

mutual

/-- A value as it is shown. -/
def shown : Value → List CodePoint
  | .null => "None".toList.map .char
  | .bool flag => shownFlag flag
  | .int number => (integerText number).map .char
  | .float number => number.text.map .char
  | .text content => shownText content
  | .dimension d =>
      (Text.ofString ("<Dimension." ++ d.memberName)).toList ++ .char ':' :: .char ' ' ::
        (shownText d.text ++ [.char '>'])
  | .bytes content => (shownBytes content).map .char
  | .decimal number => ("Decimal(".toList ++ shownQuoted (number.text.map .char) ++ [')']).map .char
  | .foreign content => content.toList
  | .list items => bracketed (shownItems items)
  | .tuple items => shownTuple (shownItems items)
  | .set frozen items => shownSet frozen (shownItems items)
  | .map entries => shownMap (shownEntries entries)
  | .choice row => row.shown
  | .catalog tables => shownRecord "FilterMetadata" tables.shownFields
  | .counts table => shownRecord "FacetCountTable" table.shownFields
  | .config settings => shownRecord "GridConfig" settings.shownFields
  | .selection chosen => shownRecord "FilterSelection" (shownSelection chosen)
  | .expr condition => shownExpr condition
  | .request document => shownRecord "GraphQLRequest" (shownRequest document)
  | .page listing => shownRecord "ProfileSearchPage" (shownPage listing)

/-- Items, each as it is shown. -/
def shownItems : List Value → List (List CodePoint)
  | [] => []
  | x :: xs => shown x :: shownItems xs

/-- Entries of a mapping, each as it is shown. -/
def shownEntries : List (Value × Value) → List (List CodePoint)
  | [] => []
  | (key, value) :: rest => shownEntry (shown key) (shown value) :: shownEntries rest

/-- Entries with text keys, each as it is shown. -/
def shownNamed : List (Text × Value) → List (List CodePoint)
  | [] => []
  | (name, value) :: rest => shownEntry (shownText name) (shown value) :: shownNamed rest

/-- Mappings with text keys, each as it is shown. -/
def shownProfiles : List (List (Text × Value)) → List (List CodePoint)
  | [] => []
  | profile :: rest => shownMap (shownNamed profile) :: shownProfiles rest

/-- The values chosen in one dimension, shown: a list, even where they were given as a tuple. -/
def shownChosen : Option (List Value) → List CodePoint
  | none => "None".toList.map .char
  | some items => bracketed (shownItems items)

/-- The fields of a selection, shown. -/
def shownSelection : Selection → List (List CodePoint)
  | ⟨types, sectors, statuses, tags, search⟩ =>
      [shownField "types" (shownChosen types), shownField "sectors" (shownChosen sectors),
        shownField "statuses" (shownChosen statuses), shownField "tags" (shownChosen tags),
        shownField "search" (shownOption shownText search)]

/-- The fields of a request, shown. -/
def shownRequest : Request → List (List CodePoint)
  | ⟨query, none, name⟩ =>
      [shownField "query" (shownText query), shownField "variables" ("None".toList.map .char),
        shownField "operation_name" (shownOption shownText name)]
  | ⟨query, some bindings, name⟩ =>
      [shownField "query" (shownText query),
        shownField "variables" (shownMap (shownNamed bindings)),
        shownField "operation_name" (shownOption shownText name)]

/-- The fields of a page, shown. -/
def shownPage : Page → List (List CodePoint)
  | ⟨profiles, number, size⟩ =>
      [shownField "profiles" (bracketed (shownProfiles profiles)),
        shownField "page" ((integerText number).map .char),
        shownField "page_size" ((integerText size).map .char)]

/-- A where expression as it is shown. -/
def shownExpr : Expr → List CodePoint
  | .field path operator value =>
      shownRecord "FieldMatch"
        [shownField "kind" (shownText "field"), shownField "path" (shownText path),
          shownField "operator" (shownText operator), shownField "value" (shown value)]
  | .all first second rest =>
      shownRecord "And"
        [shownField "kind" (shownText "and"),
          shownField "conditions"
            (bracketed (shownExpr first :: shownExpr second :: shownExprs rest))]
  | .everything => shownRecord "Empty" [shownField "kind" (shownText "empty")]

/-- Where expressions, each as it is shown. -/
def shownExprs : List Expr → List (List CodePoint)
  | [] => []
  | e :: es => shownExpr e :: shownExprs es

end

/-- The shown fields of a record, if the value is one. They stand in the parentheses of its shown
form, and alone in its plain text. -/
def shownFields? : Value → Option (List (List CodePoint))
  | .choice row => some row.shownFields
  | .catalog tables => some tables.shownFields
  | .counts table => some table.shownFields
  | .config settings => some settings.shownFields
  | .selection chosen => some (shownSelection chosen)
  | .request document => some (shownRequest document)
  | .page listing => some (shownPage listing)
  | .expr (.field path operator value) =>
      some [shownField "kind" (shownText "field"), shownField "path" (shownText path),
        shownField "operator" (shownText operator), shownField "value" (shown value)]
  | .expr (.all first second rest) =>
      some [shownField "kind" (shownText "and"),
        shownField "conditions" (bracketed (shownExprs (first :: second :: rest)))]
  | .expr .everything => some [shownField "kind" (shownText "empty")]
  | _ => none

/-- The text of a value on its own. Texts have no quotes in it, and records no name. -/
def plainText (v : Value) : List CodePoint :=
  match v with
  | .text content => content.toList
  | .dimension d => ("Dimension." ++ d.memberName).toList.map .char
  | .decimal number => number.text.map .char
  | .foreign content => content.toList
  | other =>
      match other.shownFields? with
      | some fields => joined [.char ' '] fields
      | none => other.shown

/-- The text of a value on its own, as a string. Keys of mappings become field names by it, and
errors of a reply become messages. -/
def plainString (v : Value) : Text := .ofList v.plainText

end Value

end FacetSearch
