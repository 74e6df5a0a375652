import FacetSearch.Catalog
import FacetSearch.Config
import FacetSearch.CountTable
import FacetSearch.Number.Decimal

/-!
# `FacetSearch.Value`: the values that selections and payloads are made of

Identifiers, variables and replies are opaque to the library: it passes them on, writes them as
query text and looks into the parts it knows. A value is a scalar, a container, or one of the
library's own records standing as a value. Containers keep their order; a mapping is the list of its
entries, and `Value.mapOf` and `Value.setOf` (`FacetSearch.Value.Key`) build mappings and sets in
which no key occurs twice.

The records that hold values are declared together with them: a selection, a where expression, a
request and a page of profiles. The records that hold none have modules of their own.
-/

set_option autoImplicit false

namespace FacetSearch

mutual

/-- A value of a payload, a selection or a query argument. -/
inductive Value where
  | null
  | bool (flag : Bool)
  | int (number : Int)
  | float (number : Binary64)
  | text (content : Text)
  /-- A member of the dimension enumeration, which also is the text of its name. -/
  | dimension (member : Dimension)
  | bytes (content : List UInt8)
  | decimal (number : Decimal)
  /-- An object of a foreign class, known by its text alone. -/
  | foreign (content : Text)
  | list (items : List Value)
  | tuple (items : List Value)
  | set (frozen : Bool) (items : List Value)
  | map (entries : List (Value × Value))
  | choice (row : Choice)
  | catalog (tables : Catalog)
  | counts (table : CountTable)
  | config (settings : Config)
  | selection (chosen : Selection)
  | expr (condition : Expr)
  | request (document : Request)
  | page (listing : Page)

/-- A where expression: a predicate on one field, a conjunction of at least two expressions, or the
expression that every profile meets. A conjunction has its first two conditions apart, so there is
none with fewer. -/
inductive Expr where
  | field (path operator : Text) (value : Value)
  | all (first second : Expr) (rest : List Expr)
  | everything

/-- The current choice per dimension and the text searched for. A choice is missing or a list of
values, which are kept as they came; an empty list is given and chooses nothing. -/
structure Selection where
  types : Option (List Value) := none
  sectors : Option (List Value) := none
  statuses : Option (List Value) := none
  tags : Option (List Value) := none
  search : Option Text := none

/-- A query document with its variables and operation name. Variables are named by texts, and no
name stands twice among them once they are checked. -/
structure Request where
  query : Text
  bindings : Option (List (Text × Value)) := none
  operationName : Option Text := none

/-- One page of a profile listing, with the usual size for the default. Profiles are mappings and
are not looked into. -/
structure Page where
  profiles : List (List (Text × Value)) := []
  number : Int := 0
  size : Int := 25

end

instance : Inhabited Value := ⟨.null⟩

namespace Value

/-- The text of a string value. A dimension is the text of its name, so it is taken wherever a text
is. -/
def text? : Value → Option Text
  | .text content => some content
  | .dimension d => some d.text
  | _ => none

/-- The items of a list or a tuple. The two are taken for each other wherever a list of choices or
rows is read, and no other container is. -/
def sequence? : Value → Option (List Value)
  | .list items => some items
  | .tuple items => some items
  | _ => none

/-- The entries of a mapping. Records are no mappings, although they have fields. -/
def entries? : Value → Option (List (Value × Value))
  | .map entries => some entries
  | _ => none

/-- What counts as false: nothing, zero, and every empty text or container. Records count as true,
whatever is in them. -/
def isTruthy : Value → Bool
  | .null => false
  | .bool flag => flag
  | .int number => number != 0
  | .float number => !number.isZero
  | .text content => !content.isEmpty
  | .dimension _ => true
  | .bytes content => !content.isEmpty
  | .decimal (.finite _ coefficient _) => coefficient != 0
  | .decimal _ => true
  | .foreign _ => true
  | .list items => !items.isEmpty
  | .tuple items => !items.isEmpty
  | .set _ items => !items.isEmpty
  | .map entries => !entries.isEmpty
  | _ => true

/-- A mapping with text keys as a value. Names should not repeat, since only the first of a name is
found. -/
def ofFields (fields : List (Text × Value)) : Value :=
  .map (fields.map fun (name, value) => (.text name, value))

end Value

end FacetSearch
