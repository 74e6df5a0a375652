import FacetSearch.Checked

/-!
# `FacetSearch.Choice.Check`: accepting rows

A row is given as a mapping, whose identifier and name may be numbers and become their text, or as a
row that is one already. A place for plain rows takes tag rows as they are; a place for tag rows
takes no plain row.
-/

set_option autoImplicit false

namespace FacetSearch.Choice

/-- Checks the fields of a plain row. The identifier must be there; both may be numbers, which the
service gives. -/
def checkPlain (given : Given) : Checked Choice :=
  ((given.required "id" Value.checkLabel).both
    (given.withDefault "name" none (Value.checkOptional Value.checkLabel))).map
    fun (id, name) => .plain id name

/-- Checks a value in a place for plain rows. An option that is one already is taken as it is,
whether it is plain or a tag. -/
def checkRow : Value → Checked Choice
  | .choice row => .ok row
  | .map entries => checkPlain entries
  | _ => .fault .notRecord

/-- Checks the fields of a tag row. The kind is known by two names, and the first wins. -/
def checkTag (given : Given) : Checked Choice :=
  ((given.required "id" Value.checkLabel).both
    ((given.withDefault "name" none (Value.checkOptional Value.checkLabel)).both
      (given.withEitherName "tagType" "tag_type" none (Value.checkOptional checkRow)))).map
    fun (id, name, kind) => .tag id name kind

/-- Checks a value in a place for tag rows. A plain option is no tag and is refused, although a
mapping with its fields would pass. -/
def checkTagRow : Value → Checked Choice
  | .choice (.tag id name kind) => .ok (.tag id name kind)
  | .map entries => checkTag entries
  | _ => .fault .notRecord

end FacetSearch.Choice
