import FacetSearch.Address.Credentials
import FacetSearch.Config
import FacetSearch.Http.Connection
import FacetSearch.Http.Reply
import FacetSearch.Json.Body
import FacetSearch.Request
import FacetSearch.Transport

/-!
# `FacetSearch.Http`: the transport over HTTP

A request is posted as JSON to the address of the endpoint, with the headers of the configuration
and a content type unless one of them names it. Header names are compared without regard to case. A
user whom the address names is authorised by a header, which replaces one of the configuration's. An
endpoint that is no address, or whose host is a faulty name, and headers that are not ASCII are
failures before anything is sent; so are variables that JSON cannot hold, and a query or a variable
with a lone surrogate, which UTF-8 cannot write.

An endpoint without scheme or host names a path below the root. Requests to it are sent, but what
responds to them is no server, and the response is a failure.

A request that fails on the way is a failure without a status; a response is read by
`Http.interpret`. The server is a list of prepared answers, which requests take in order.
-/

set_option autoImplicit false

namespace FacetSearch.Http

/-- What the server does with a request, or what happens to the request before a server sees it. The
transport is told all of these apart. -/
inductive Answer where
  | response (status : Int) (body : String)
  /-- A response whose body is given by its bytes, which need not be a text in UTF-8. -/
  | raw (status : Int) (body : List UInt8)
  /-- The request fails on the way. -/
  | failed (message : Text)
  /-- The endpoint turns out to be no address. -/
  | badAddress
  /-- Something outside the protocol breaks. -/
  | broken (message : Text)

/-- A request as it is posted, and the client that it goes through. The body is what its encoding in
UTF-8 spells, so it has no surrogate. The record of posted requests is what a server can know of the
transport. -/
structure Posted where
  client : Client
  address : Address
  headers : List (Text × Text)
  body : String

/-- Where a request is posted, as it is written in messages. -/
def Posted.url (p : Posted) : String := String.ofList p.address.text

/-- A header name in lower case, which is how names are told apart on the way. -/
def lowerName (name : Text) : Text := .ofList (name.toList.map CodePoint.toLower)

/-- Whether a text is ASCII, which names and values of headers must be. -/
def isPlain (text : Text) : Bool := text.toList.all (CodePoint.satisfies Address.isAscii)

/-- Whether a header of a name is among headers, by the exact name. The callers have names in lower
case. -/
def hasHeader (name : Text) (headers : List (Text × Text)) : Bool :=
  headers.any fun header => header.1 == name

/-- The headers of a configuration, under names in lower case. Headers that differ in case alone are
both there afterwards, under one name. -/
def ownHeaders? (config : Config) : Option (List (Text × Text)) :=
  if config.requestHeaders.all fun (name, value) => isPlain name && isPlain value then
    some (config.requestHeaders.map fun (name, value) => (lowerName name, value))
  else none

/-- Adds the content type to headers that lack one. A content type of the configuration stays, even
if it is not the one of JSON. -/
def withContentType (headers : List (Text × Text)) : List (Text × Text) :=
  if hasHeader "content-type" headers then headers
  else headers ++ [(("content-type" : Text), ("application/json" : Text))]

/-- Puts the credentials of an address among headers. They replace every header that authorises,
since a user in the address counts more than one in the configuration. -/
def withCredentials (address : Address) (headers : List (Text × Text)) :
    List (Text × Text) :=
  match address.credentials? with
  | some credentials =>
      (headers.filter fun header => header.1 != ("authorization" : Text)) ++
        [(("authorization" : Text), (credentials : Text))]
  | none => headers

/-- The failure of a host that is a faulty name, or that no header can hold. Headers that name the
host keep it unread. -/
def hostFailure? (address : Address) (headers : List (Text × Text)) : Option Failure :=
  if hasHeader "host" headers then none
  else if address.host.all Address.isAscii then
    (Address.nameFault? address.host).map .invalidHost
  else some .unwritableHeader

/-- The characters of an endpoint in which a surrogate is replaced by U+FFFF. Like a surrogate this
stands in no host and must be escaped in every other part. -/
def standIn (endpoint : Text) : List Char :=
  endpoint.toList.map fun point => point.char?.getD (Char.ofNat 65535)

/-- The address of an endpoint. A surrogate cannot be escaped, so an endpoint with one is refused
for it, unless there is no address even with something else in its place. -/
def addressOf (endpoint : Text) : Except Failure Address :=
  match endpoint.chars? with
  | some chars => (Address.ofEndpoint? chars).elim (.error .invalidAddress) .ok
  | none =>
      .error <|
        if (Address.ofEndpoint? (standIn endpoint)).isSome then .unwritableText
        else .invalidAddress

/-- The body of a request: the JSON text of its payload, which must be one that can be encoded. JSON
is written without escaping what is not ASCII, so a lone surrogate stays in the text and UTF-8
cannot write it. -/
def bodyOf (request : Request) : Except Failure String := do
  let text ← Json.body request.payload
  (Text.ofList text).string?.elim (.error .unwritableText) .ok

/-- The request as it is posted through a client to the endpoint of a configuration. What fails
first is reported: the address, the headers, the body, and then the host. -/
def postedOf (client : Client) (config : Config) (request : Request) : Except Failure Posted := do
  let address ← addressOf config.endpoint
  let headers ← (ownHeaders? config).elim (.error .unwritableHeader) .ok
  let body ← bodyOf request
  (hostFailure? address headers).elim (.ok ()) .error
  return { client, address, headers := withCredentials address (withContentType headers), body }

/-- The names of headers that the connection sets, on its own or from what is given. -/
def connectionHeaders : List Text :=
  ["host", "accept", "accept-encoding", "connection", "user-agent", "content-length"]

/-- The value of a header: all that is given under its name, with commas between. A server cannot
tell one value with a comma from two headers of one name. -/
def headerValue (name : Text) (headers : List (Text × Text)) : Text :=
  joinedText ", " ((headers.filter fun header => header.1 == name).map Prod.snd)

/-- The headers that are not the connection's, sorted by name, one of each name. This is what a
server reads, whatever the order in which headers were put together. -/
def Posted.sentHeaders (p : Posted) : List (Text × Text) :=
  let names := (p.headers.map Prod.fst).eraseDups.filter fun name =>
    !connectionHeaders.contains name
  (names.mergeSort fun a b => textLe a.toList b.toList).map fun name =>
    (name, headerValue name p.headers)

/-- The state of the transport: what it was configured with, its client, the answers that are still
to come, and what was posted so far. -/
structure Wire where
  config : Config
  connection : Connection
  answers : List Answer := []
  posted : List Posted := []

namespace Wire

/-- The failure of a request that fails on the way. It names the endpoint and has no status, since
there was no reply to take one from. -/
def unreachable (config : Config) (message : Text) : Failure :=
  .transport ["Request to " ++ config.endpoint ++ " failed: " ++ message] none

/-- What an answer to a posted request means for an operation. Without a server at the address a
response cannot be filed, whatever is in it. -/
def outcome (config : Config) (operation : Text) (posted : Posted) :
    Answer → Except Failure Value
  | .response status body =>
      if posted.address.isAbsolute then interpret operation status body
      else .error (.unknownServer posted.url)
  | .raw status body =>
      if posted.address.isAbsolute then interpretBytes operation status body
      else .error (.unknownServer posted.url)
  | .failed message => .error (unreachable config message)
  | .badAddress => .error .invalidAddress
  | .broken message => .error (.broken message)

/-- Runs a document. A request that cannot be made, or that cannot be posted, leaves no trace among
the posted ones and takes no answer, but a client is made for it in the second case. -/
def execute (document bindings : Value) (w : Wire) : Except Failure Value × Wire :=
  match Request.ofDocument document bindings with
  | .error cause => (.error cause, w)
  | .ok request =>
      -- The client is asked for before the request is put together, so it is there even if that
      -- fails.
      let (client, connection) := w.connection.acquire
      let w := { w with connection }
      match postedOf client w.config request with
      | .error cause => (.error cause, w)
      | .ok post =>
          let w := { w with posted := w.posted ++ [post] }
          match w.answers with
          | [] => (.error .outOfRange, w)
          | answer :: rest =>
              (outcome w.config request.operation post answer, { w with answers := rest })

/-- The transport over HTTP. -/
def transport : Transport Wire := ⟨execute⟩

end Wire

end FacetSearch.Http
