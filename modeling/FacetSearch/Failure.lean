import FacetSearch.Address.DomainFault
import FacetSearch.Issue
import FacetSearch.Number.Whole
import FacetSearch.Value.Shown

/-!
# `FacetSearch.Failure`: why an operation ends without a result

Failures are causes. `Failure.message?` gives the wording of those that have one.
-/

set_option autoImplicit false

namespace FacetSearch

/-- Why an operation ends without a result. Failures are told apart by their causes, since a service
logs those of the transport and passes all others on alone. -/
inductive Failure where
  /-- A value does not fit a record type. -/
  | invalid (record : String) (issues : List Issue)
  /-- The transport could not answer a request. -/
  | transport (messages : List Text) (status : Option Int)
  /-- Something stands where a literal should, and is none. -/
  | unknownLiteral (value : Value)
  /-- No endpoint was passed or set. -/
  | noEndpoint
  /-- A page holds fewer than one profile. -/
  | pageSizeBelowOne
  /-- A setting is no number. -/
  | unreadableSetting (text : Text)
  /-- A value names no dimension. -/
  | unknownDimension (name : Value)
  /-- An infinity or not-a-number stands in a request body. -/
  | unwritableNumber
  /-- A count is infinite. -/
  | infiniteCount
  /-- A count is an infinite decimal. -/
  | infiniteDecimalCount
  /-- A whole number is past the largest double. -/
  | beyondDoubles
  /-- A reply that is a refusal with its own wording. -/
  | refused (message : Text)
  /-- The connection broke down with its own wording. -/
  | broken (message : Text)
  /-- An operation does not apply to a value of this kind. -/
  | unsupported
  /-- A value lacks the member that is asked of it. -/
  | noMember
  /-- A position lies outside a list. -/
  | outOfRange
  /-- Brackets of a body stand in one another too deep. -/
  | tooDeep
  /-- The endpoint is no address. -/
  | invalidAddress
  /-- The host of the endpoint is a faulty domain name. -/
  | invalidHost (fault : Address.DomainFault)
  /-- The address that a request was sent to names no server, and its response cannot be filed. -/
  | unknownServer (url : Text)
  /-- A header holds a character past ASCII. -/
  | unwritableHeader
  /-- A text to be sent holds a surrogate, which no encoding of characters writes. -/
  | unwritableText
  /-- An operation on decimals without a result: a comparison with one that is not-a-number, or the
  product of zero and an infinity. -/
  | undefinedOperation
  /-- A product of decimals past the largest decimal. -/
  | beyondDecimals

/-- The name of the kind of a value, as the message about a value that is no literal has it. -/
def Value.kindName : Value → String
  | .null => "NoneType"
  | .bool _ => "bool"
  | .int _ => "int"
  | .float _ => "float"
  | .text _ => "str"
  | .dimension _ => "Dimension"
  | .bytes _ => "bytes"
  | .decimal _ => "Decimal"
  | .foreign _ => "Opaque"
  | .list _ => "list"
  | .tuple _ => "tuple"
  | .set frozen _ => if frozen then "frozenset" else "set"
  | .map _ => "dict"
  | .choice row => row.recordName
  | .catalog _ => "FilterMetadata"
  | .counts _ => "FacetCountTable"
  | .config _ => "GridConfig"
  | .selection _ => "FilterSelection"
  | .expr (.field ..) => "FieldMatch"
  | .expr (.all ..) => "And"
  | .expr .everything => "Empty"
  | .request _ => "GraphQLRequest"
  | .page _ => "ProfileSearchPage"

/-- Texts with a separator between them. One text alone has none around it. -/
def joinedText (separator : Text) (texts : List Text) : Text :=
  .ofList (joined separator.toList (texts.map Text.toList))

namespace Failure

/-- The failure of a transport, from its messages. A failure without a message says so, so that its
wording is never empty. -/
def ofMessages (messages : List Text) (status : Option Int) : Failure :=
  .transport (if messages.isEmpty then ["Unknown error"] else messages) status

/-- The wording of a failure, where it has one of its own. The others are reports of a library
below, which word what they find. -/
def message? : Failure → Option Text
  | .transport messages _ => some (joinedText "; " messages)
  | .unknownLiteral value => some ("Unknown literal kind: " ++ value.kindName)
  | .noEndpoint => some "No Grid endpoint configured. Pass endpoint= or set GRID_ENDPOINT."
  | .pageSizeBelowOne => some "page_size must be a positive integer"
  | .unreadableSetting text =>
      some ("could not convert string to float: " ++ .ofList (shownText text))
  | .unknownDimension name =>
      some (.ofList name.shown ++ " is not a valid Dimension")
  | .unwritableNumber => some "Out of range float values are not JSON compliant"
  | .infiniteCount => some "cannot convert float infinity to integer"
  | .infiniteDecimalCount => some "cannot convert Infinity to integer"
  | .beyondDoubles => some "int too large to convert to float"
  | .unknownServer url => some ("unknown url type: " ++ .ofList (shownText url))
  | .refused message => some message
  | .broken message => some message
  | _ => none

end Failure

end FacetSearch
