import FacetSearch.Catalog.Check
import FacetSearch.Config.Check
import FacetSearch.CountTable.Check
import FacetSearch.Expr.Check
import FacetSearch.Page
import FacetSearch.Request
import FacetSearch.Selection.Conditions

/-!
# `FacetSearch.Record`: records by name

A record is made from the fields that are given for it, by the check of its type. What goes through
values of any kind, be it messages of a failure or the values of a predicate, takes what
`Value.iterated?` yields.
-/

set_option autoImplicit false

namespace FacetSearch

/-- The record of a name with the given fields. A selection is made as it comes, without a report,
since whatever is no choice in it counts as none. -/
def Record.make? (name : String) (given : Given) : Option (Except Failure Value) :=
  let made {α : Type} (check : Given → Checked α) (wrap : α → Value) :=
    some (Checked.asOutcome name ((check given).map wrap))
  match name with
  | "FilterOption" => made Choice.checkPlain .choice
  | "TagOption" => made Choice.checkTag .choice
  | "FilterSelection" => some (.ok (.selection (Selection.ofEntries given)))
  | "FilterMetadata" => made Catalog.check .catalog
  | "FacetCountTable" => made CountTable.check .counts
  | "FieldMatch" => made Expr.checkField .expr
  | "And" => made (Expr.checkAll Expr.nestingLimit) .expr
  | "Empty" => made Expr.checkEverything .expr
  | "GraphQLRequest" => made Request.check .request
  | "GridConfig" => made Config.check .config
  | "ProfileSearchPage" => made Page.check .page
  | _ => none

/-- A value as a key of a mapping or a member of a set. What can change is refused there. -/
def Value.asKey (v : Value) : Except Failure Value :=
  if v.isKey then .ok v else .error .unsupported

/-- The failure of a transport from messages of any kind, each by its plain text. A value that
cannot be gone through has no messages. -/
def Failure.ofValues (messages : Value) (status : Option Int) : Failure :=
  match messages.iterated? with
  | some items => .ofMessages (items.map Value.plainString) status
  | none => .unsupported

/-- The predicate that a profile has one of the values that going through a value yields. -/
def Dimension.isAmongItems (d : Dimension) (values : Value) : Except Failure Expr :=
  match values.iterated? with
  | some items => .ok (d.isAmong items)
  | none => .error .unsupported

/-- The dimension that a value names. A dimension names itself, since it is a text. -/
def Dimension.ofValue (name : Value) : Except Failure Dimension :=
  match name.text?.bind Dimension.ofText? with
  | some d => .ok d
  | none => .error (.unknownDimension name)

end FacetSearch
