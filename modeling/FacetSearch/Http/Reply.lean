import FacetSearch.Failure
import FacetSearch.Json.Read
import FacetSearch.Text.Encoding

/-!
# `FacetSearch.Http.Reply`: what a response means

A response is data only when its status is no error, its body is a JSON object without errors, and
its `data` is an object. Everything else is a failure that carries the status: the errors that the
body lists, one message each; or, without any, the status with its reason phrase, or the lack of
data. A body that is no JSON is a failure before its status counts, and one that is nested too deep
is a failure without a status.
-/

set_option autoImplicit false

namespace FacetSearch.Http

/-- The reason phrases of the statuses that are errors. Other statuses have none here, because no
message is made of them. -/
def reasonPhrases : List (Int × String) :=
  [(400, "Bad Request"), (401, "Unauthorized"), (402, "Payment Required"), (403, "Forbidden"),
    (404, "Not Found"), (405, "Method Not Allowed"), (406, "Not Acceptable"),
    (407, "Proxy Authentication Required"), (408, "Request Timeout"), (409, "Conflict"),
    (410, "Gone"), (411, "Length Required"), (412, "Precondition Failed"),
    (413, "Request Entity Too Large"), (414, "Request-URI Too Long"),
    (415, "Unsupported Media Type"), (416, "Requested Range Not Satisfiable"),
    (417, "Expectation Failed"), (418, "I'm a teapot"), (421, "Misdirected Request"),
    (422, "Unprocessable Entity"), (423, "Locked"), (424, "Failed Dependency"),
    (425, "Too Early"), (426, "Upgrade Required"), (428, "Precondition Required"),
    (429, "Too Many Requests"), (431, "Request Header Fields Too Large"),
    (451, "Unavailable For Legal Reasons"), (500, "Internal Server Error"),
    (501, "Not Implemented"), (502, "Bad Gateway"), (503, "Service Unavailable"),
    (504, "Gateway Timeout"), (505, "HTTP Version Not Supported"),
    (506, "Variant Also Negotiates"), (507, "Insufficient Storage"), (508, "Loop Detected"),
    (510, "Not Extended"), (511, "Network Authentication Required")]

/-- The reason phrase of a status; unknown ones have the empty phrase. -/
def reasonPhrase (status : Int) : String := (reasonPhrases.lookup status).getD ""

/-- Whether a status is an error of the client or of the server. A status from 600 on is none, and
neither is a redirection, which is not followed. -/
def isError (status : Int) : Bool := decide (400 ≤ status) && decide (status ≤ 599)

/-- A status at the start of a message. -/
def statusText (status : Int) : String := "HTTP " ++ String.ofList (integerText status)

/-- The message of one error: its own, if it has one that counts, and otherwise the error shown. A
message that is empty, zero or false does not count. -/
def errorMessage (error : Value) : Text :=
  match error with
  | .map entries =>
      let message := (Value.get? entries "message").getD .null
      if message.isTruthy then message.plainString else error.plainString
  | other => other.plainString

/-- The messages of the errors that a body lists. Errors that are no list count as one, and errors
that are empty count as none. -/
def errorMessages (body : Value) : List Text :=
  match body with
  | .map entries =>
      let errors := (Value.get? entries "errors").getD .null
      if !errors.isTruthy then []
      else
        match errors with
        | .list items => items.map errorMessage
        | other => [errorMessage other]
  | _ => []

/-- The data of a body, which must be an object in an object. The inner object may be empty. -/
def dataOf? (body : Value) : Option Value :=
  match body with
  | .map entries =>
      match Value.get? entries "data" with
      | some (.map inner) => some (.map inner)
      | _ => none
  | _ => none

/-- What a response means for an operation, from what its body is read as. Errors of the body come
before the status, since servers report errors of queries under any status. -/
def interpretContent (operation : Text) (status : Int) :
    Except Json.Fault Value → Except Failure Value
  | .error .tooDeep => .error .tooDeep
  | .error .malformed =>
      .error (.transport [statusText status ++ ": response body is not valid JSON"] (some status))
  | .ok content =>
      -- Errors of the body, then the status, then the data.
      let messages := errorMessages content
      if !messages.isEmpty then .error (.transport messages (some status))
      else if isError status then
        .error (.transport [statusText status ++ ": " ++ reasonPhrase status] (some status))
      else
        match dataOf? content with
        | some data => .ok data
        | none =>
            .error (.transport ["Operation " ++ operation ++ " returned no data"] (some status))

/-- What a response means for an operation. The body is text, whose encoding is still told from its
first bytes. -/
def interpret (operation : Text) (status : Int) (body : String) : Except Failure Value :=
  interpretContent operation status ((Json.orMalformed (bodyPoints? body)).bind Json.read)

/-- What a response means for an operation, when its body is given by its bytes. Bytes that are no
text in their encoding are no JSON. -/
def interpretBytes (operation : Text) (status : Int) (body : List UInt8) :
    Except Failure Value :=
  interpretContent operation status ((Json.orMalformed (pointsOfBytes? body)).bind Json.read)

end FacetSearch.Http
