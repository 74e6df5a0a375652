import FacetSearch.Checked
import FacetSearch.OperationName

/-!
# `FacetSearch.Request`: documents with their variables

A request carries a document, its variables and the name of its operation, which is read off the
document. Its payload is the mapping that a server receives; variables that are missing and a name
that is missing or empty are left out of it.
-/

set_option autoImplicit false

namespace FacetSearch.Request

/-- The name of the record in reports. -/
def recordName : String := "GraphQLRequest"

/-- Checks the fields of a request. Only the document must be given; variables and a name may be
missing or null. -/
def check (given : Given) : Checked Request :=
  ((given.required "query" Value.checkText).both <|
    (given.withDefault "variables" none
      (Value.checkOptional (Value.checkMapping Value.checkAny))).both
      (given.withDefault "operation_name" none (Value.checkOptional Value.checkText))).map
    fun (query, bindings, operationName) => { query, bindings, operationName }

/-- The request of a document and its variables. The name of the operation is read off the document
first, so most documents that are no texts fail there, before the fields are checked. -/
def ofDocument (document bindings : Value) : Except Failure Request := do
  let name ← OperationName.ofValue? document
  (check [(.text "query", document), (.text "variables", bindings),
    (.text "operation_name", (name.map Value.text).getD .null)]).asOutcome recordName

/-- The name of the operation, or the word for a document that names none. Messages have it. -/
def operation (r : Request) : Text :=
  match r.operationName with
  | some name => if name.isEmpty then "anonymous" else name
  | none => "anonymous"

/-- What a server receives. Variables that are there are sent even when they are empty, but an empty
name is left out. -/
def payload (r : Request) : Value :=
  Value.ofFields <|
    ([("query", .text r.query)] : List (Text × Value)) ++
      (r.bindings.map fun bindings => (("variables" : Text), Value.ofFields bindings)).toList ++
      (match r.operationName with
        | some name => if name.isEmpty then [] else [(("operationName" : Text), Value.text name)]
        | none => [])

end FacetSearch.Request
