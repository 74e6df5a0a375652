import FacetSearch.Catalog.Check
import FacetSearch.Document
import FacetSearch.Facets.Decode
import FacetSearch.Page
import FacetSearch.Transport
import FacetSearch.Value.Arithmetic

/-!
# `FacetSearch.Service`: catalog, listing and facet counts

The service runs three kinds of query over a transport: it loads the option tables, lists one page
of profiles, and counts facets. A listing without active filters is never requested. A failure of
the transport is logged and passed on unchanged; other failures are passed on alone.
-/

set_option autoImplicit false

namespace FacetSearch

/-- A service over a transport. The page size is a value of any number type, as the caller gave it,
and the names are those of the facet fields. -/
structure Service (σ : Type) where
  transport : Transport σ
  pageSize : Value
  names : FacetNames

/-- What changes while a service runs: the state of the transport and the warnings logged. The
service itself never changes. -/
structure Session (σ : Type) where
  channel : σ
  warnings : List Text := []

/-- A step of a service: an outcome and the session after it. There is a session after it also when
it fails, since the transport has then been used all the same. -/
abbrev Run (σ α : Type) : Type := Session σ → Except Failure α × Session σ

/-- A step whose outcome decides how to go on. What comes next reads the outcome and leaves the
session alone. -/
def Run.andThen {σ α β : Type} (step : Run σ α) (next : α → Except Failure β) : Run σ β :=
  fun session =>
    match step session with
    | (.ok x, after) => (next x, after)
    | (.error cause, after) => (.error cause, after)

namespace Service

variable {σ : Type}

/-- The size of pages where none is asked for. -/
def defaultPageSize : Value := .int 25

/-- A service whose pages hold at least one profile. A size that is no number cannot be compared
with one and is refused for that. -/
def make (transport : Transport σ) (pageSize : Value) (names : FacetNames) :
    Except Failure (Service σ) := do
  if ← pageSize.isBelowOne then throw .pageSizeBelowOne
  return { transport, pageSize, names }

/-- The warning for a failure, if it is one of the transport. Other failures are the caller's and
are not logged. -/
def warning? (cause : Failure) : Option Text :=
  match cause with
  | .transport messages _ => some ("Grid query failed: " ++ joinedText "; " messages)
  | _ => none

/-- Runs a document and logs a failure of the transport. The outcome is passed on unchanged. -/
def run (s : Service σ) (document bindings : Value) : Run σ Value := fun session =>
  let (outcome, channel) := s.transport.execute document bindings session.channel
  let warnings :=
    match outcome with
    | .ok _ => []
    | .error cause => (warning? cause).toList
  (outcome, { channel := channel, warnings := session.warnings ++ warnings })

/-- Loads the option tables, which a reply gives under the names of the metadata query. -/
def loadCatalog (s : Service σ) : Run σ Catalog :=
  (s.run (.text Document.filterMetadata) .null).andThen Catalog.ofPayload

/-- The profiles in the reply to a listing. A reply without profiles has an empty list of them, but
a reply that is no mapping is refused. -/
def profilesOf : Value → Except Failure Value
  | .map entries =>
      let profiles := (Value.get? entries "profileInfos").getD .null
      .ok (if profiles.isTruthy then profiles else .list [])
  | _ => .error .noMember

/-- A page with the given profiles, if there are any. The page is checked like any other record, so
a reply with other things than mappings for profiles is refused there. -/
def pageOf (s : Service σ) (number : Value) (profiles : Option Value) : Except Failure Page :=
  Page.ofGiven <|
    (profiles.map fun value => (Value.text "profiles", value)).toList ++
      [(.text "page", number), (.text "page_size", s.pageSize)]

/-- The variables of a listing. The offset is the number of profiles before the page, and a product
of any number type. -/
def searchVariables (s : Service σ) (selection : Selection) (number : Value) :
    Except Failure Value := do
  let offset ← number.times s.pageSize
  return Value.ofFields
    [("where", selection.toExpr.toWhere), ("limit", s.pageSize), ("offset", offset)]

/-- Lists a page of the profiles that meet a selection. Without filters every profile would meet it,
so nothing is requested and the page is empty. -/
def search (s : Service σ) (choice number : Value) : Run σ Page := fun session =>
  let selection := Selection.coerce choice
  match number.atLeastZero with
  | .error cause => (.error cause, session)
  | .ok number =>
      -- The guard comes before the variables are made, so an unfiltered listing fails on its page
      -- number alone.
      if !selection.hasFilters then (s.pageOf number none, session)
      else
        match s.searchVariables selection number with
        | .error cause => (.error cause, session)
        | .ok bindings =>
            (s.run (.text Document.profileSearch) bindings).andThen
              (fun data => do s.pageOf number (some (← profilesOf data))) session

/-- Counts the facets of a selection over a catalog. Nothing is requested when the catalog or the
query is refused. -/
def facetCounts (s : Service σ) (choice catalog : Value) : Run σ CountTable := fun session =>
  match Catalog.coerce catalog with
  | .error cause => (.error cause, session)
  | .ok tables =>
      match FacetQuery.compile s.names (Selection.coerce choice) tables with
      | .error cause => (.error cause, session)
      | .ok query => (s.run (.text query.text) .null).andThen query.decode session

end Service

end FacetSearch
