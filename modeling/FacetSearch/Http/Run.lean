import FacetSearch.Http

/-!
# `FacetSearch.Http.Run`: what is done with a transport over its life

A caller runs documents over a transport, closes it, and enters and leaves contexts with it, in any
order. To leave a context is to close the transport, whatever happened inside. A transport that was
closed can be used again.

Each request goes through the client that the connection gives for it. A client that was closed
sends nothing, and the call that goes through it breaks.
-/

set_option autoImplicit false

namespace FacetSearch.Http

/-- What is done with a transport. To enter a context does nothing, and to leave it closes the
transport. -/
inductive Use where
  | execute (document bindings : Value)
  | close
  | enter
  | leave

namespace Use

/-- Whether a use asks for a client: a call whose document and variables make a request. Other calls
fail before a client is needed. -/
def asks : Use → Bool
  | .execute document bindings => (Request.ofDocument document bindings).isOk
  | .close | .enter | .leave => false

/-- Whether a use closes the transport. -/
def closes : Use → Bool
  | .close | .leave => true
  | .execute .. | .enter => false

end Use

namespace Wire

/-- A transport that makes its own clients, with the timeout of the configuration. -/
def own (config : Config) (answers : List Answer) : Wire :=
  { config, connection := .own config.timeout, answers }

/-- A transport over a client of its caller's, which has a timeout of its own. -/
def given (config : Config) (clientTimeout : Binary64) (answers : List Answer) : Wire :=
  { config, connection := .given config.timeout clientTimeout, answers }

/-- The client that the next request goes through. It may be one that is not made yet. -/
def client (w : Wire) : Client := w.connection.acquire.1

/-- Runs a document through the client for it. Through a closed client nothing is sent: the call
breaks, and neither the answers nor the posted requests change. -/
def call (document bindings : Value) (w : Wire) : Except Failure Value × Wire :=
  if w.connection.isClosed w.client then
    let (outcome, after) := execute document bindings
      { w with answers := [.broken "Cannot send a request, as the client has been closed."] }
    (outcome, { w with connection := after.connection })
  else execute document bindings w

/-- Closes the client, if the transport owns it. The transport can be used again afterwards. -/
def close (w : Wire) : Wire := { w with connection := w.connection.close }

/-- One use: the outcome, if it is a call, and the transport afterwards. -/
def step (w : Wire) : Use → Option (Except Failure Value) × Wire
  | .execute document bindings =>
      let (outcome, after) := w.call document bindings
      (some outcome, after)
  | .close | .leave => (none, w.close)
  | .enter => (none, w)

/-- The transport after uses, one after the other. What the calls among them returned is left to
`step`. -/
def run (w : Wire) (uses : List Use) : Wire := uses.foldl (fun w use => (w.step use).2) w

end Wire

end FacetSearch.Http
