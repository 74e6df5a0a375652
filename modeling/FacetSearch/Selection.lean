import FacetSearch.Checked

/-!
# `FacetSearch.Selection`: the current choice of a user

A selection holds, for each dimension, the values chosen, and the text searched for. Values are kept
as they are. A dimension whose values are no list counts as not chosen, and so does a search that is
no text; hence every value can be taken for a selection. A search is trimmed of blanks when it is
used, and a blank one is none.
-/

set_option autoImplicit false

namespace FacetSearch.Selection

/-- The values chosen in a dimension, if the dimension was given. An empty list was given, too. -/
def chosen (s : Selection) : Dimension → Option (List Value)
  | .types => s.types
  | .sectors => s.sectors
  | .statuses => s.statuses
  | .tags => s.tags

/-- The values chosen in a dimension. A dimension that was not given and an empty list choose
nothing alike. -/
def values (s : Selection) (d : Dimension) : List Value := (s.chosen d).getD []

/-- The selection with nothing chosen in a dimension. It is a copy, and the other dimensions and the
search stay. -/
def without (s : Selection) : Dimension → Selection
  | .types => { s with types := none }
  | .sectors => { s with sectors := none }
  | .statuses => { s with statuses := none }
  | .tags => { s with tags := none }

/-- The search, trimmed, if anything is left of it. A search of blanks is none. -/
def normalizedSearch (s : Selection) : Option Text :=
  match s.search with
  | none => none
  | some search =>
      let trimmed := trimBlanks search.toList
      if trimmed.isEmpty then none else some (.ofList trimmed)

/-- Whether anything is chosen or searched for. This is asked before a listing, and apart from the
conditions themselves. -/
def hasFilters (s : Selection) : Bool :=
  s.normalizedSearch.isSome || Dimension.all.any fun d => !(s.values d).isEmpty

/-- The selection that a mapping describes. Whatever is no list of choices counts as none, and
whatever is no text as no search, without a report. -/
def ofEntries (given : Given) : Selection where
  types := (Value.get? given "types").bind Value.sequence?
  sectors := (Value.get? given "sectors").bind Value.sequence?
  statuses := (Value.get? given "statuses").bind Value.sequence?
  tags := (Value.get? given "tags").bind Value.sequence?
  search := (Value.get? given "search").bind Value.text?

/-- A value taken for a selection: what is neither a selection nor a mapping chooses nothing. -/
def coerce : Value → Selection
  | .selection s => s
  | .map entries => ofEntries entries
  | _ => {}

/-- The name of the record in reports. -/
def recordName : String := "FilterSelection"

/-- The fields of a selection: the choice in each dimension, and the search. -/
inductive Field where
  | chosen (d : Dimension)
  | search

/-- The name of a field, which a report on it has. -/
def Field.name : Field → Text
  | .chosen d => d.text
  | .search => "search"

/-- The failure of an assignment to a name: the record is frozen, and the report is about the field
alone. -/
def frozenAt (name : Text) : Failure := .invalid recordName [⟨[.name name], .frozen⟩]

/-- Assigns a value to a field. A selection cannot be changed, so whatever the field and the value,
this fails at the name of the field. -/
def assign (_ : Selection) (field : Field) (_ : Value) : Except Failure Selection :=
  .error (frozenAt field.name)

end FacetSearch.Selection
