import FacetSearch.Number.Binary64

/-!
# `FacetSearch.Http.Connection`: who owns the client

A connection either uses a client that its caller made and never closes it, or makes clients of its
own: the first one when it is needed, and another when one is needed after a close. Clients are
numbered in the order in which they come up.
-/

set_option autoImplicit false

namespace FacetSearch.Http

/-- A client: its number and its timeout in seconds. The number tells it from all others of the
transport. -/
structure Client where
  number : Nat
  timeout : Binary64
  deriving DecidableEq

/-- The clients of one transport: whether it makes them itself, with which timeout, the one that is
open, those that it closed, and how many came up so far. -/
structure Connection where
  owned : Bool
  timeout : Binary64
  current : Option Client
  closed : List Client
  count : Nat
  deriving DecidableEq

namespace Connection

/-- A connection that makes its own clients. It has none before the first request. -/
def own (timeout : Binary64) : Connection := ⟨true, timeout, none, [], 0⟩

/-- A connection over a client of its caller's. This client has the number zero, and no other will
come up. -/
def given (timeout clientTimeout : Binary64) : Connection :=
  ⟨false, timeout, some ⟨0, clientTimeout⟩, [], 1⟩

/-- The client for the next request, which is made if there is none. Asking again gives the same
client, as long as it is not closed. -/
def acquire (c : Connection) : Client × Connection :=
  match c.current with
  | some client => (client, c)
  | none =>
      let client : Client := ⟨c.count, c.timeout⟩
      (client, { c with current := some client, count := c.count + 1 })

/-- Closes the client, if the connection owns it. A client of the caller's is left to the caller,
and without a client there is nothing to do. -/
def close (c : Connection) : Connection :=
  match c.owned, c.current with
  | true, some client => { c with current := none, closed := c.closed ++ [client] }
  | _, _ => c

/-- What is done with a connection. -/
inductive Action where
  | get
  | close
  /-- Enters a context, asks for the client, and leaves the context. -/
  | within

/-- One action: the client that it saw, and the connection afterwards. A context closes at its end
what was made inside. -/
def act (c : Connection) : Action → Option Client × Connection
  | .get => (some c.acquire.1, c.acquire.2)
  | .close => (none, c.close)
  | .within => (some c.acquire.1, c.acquire.2.close)

/-- Whether a client was closed. A client that the caller gave never is. -/
def isClosed (c : Connection) (client : Client) : Bool := c.closed.contains client

end Connection

end FacetSearch.Http
