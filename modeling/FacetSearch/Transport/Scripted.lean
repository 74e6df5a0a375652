import FacetSearch.Request
import FacetSearch.Transport

/-!
# `FacetSearch.Transport.Scripted`: a transport with prepared replies

The scripted transport records every valid request and answers it from a queue, oldest reply first,
or from a responder that sees the request. With a responder the queue is never used. A request that
finds the queue empty fails; a document that makes no valid request fails before it is recorded.
-/

set_option autoImplicit false

namespace FacetSearch

/-- A prepared reply: data of any shape, which need not be a reply that a server could give, or a
failure. -/
inductive Reply where
  | data (value : Value)
  | failure (cause : Failure)

/-- The outcome that a reply stands for. Data is returned as it is, and a failure is raised as it
is. -/
def Reply.outcome : Reply → Except Failure Value
  | .data value => .ok value
  | .failure cause => .error cause

/-- The state of a scripted transport: what was asked so far, the replies still queued, and a
responder, if there is one. -/
structure Script where
  requests : List Request := []
  pending : List Reply := []
  responder : Option (Request → Reply) := none

namespace Script

/-- Puts a reply at the end of the queue, behind all that wait there. -/
def queue (s : Script) (reply : Reply) : Script := { s with pending := s.pending ++ [reply] }

/-- A responder that looks up the name of the operation. A name that is listed twice has its last
reply, and a name that is not listed gets an empty mapping. -/
def respondByName (table : List (Option Text × Reply)) (request : Request) : Reply :=
  (table.reverse.lookup request.operationName).getD (.data (.map []))

/-- The outcome of a recorded request, and the replies that remain. A responder answers by the
request and leaves the queue alone. -/
def answer (s : Script) (request : Request) : Except Failure Value × List Reply :=
  match s.responder with
  | some respond => ((respond request).outcome, s.pending)
  | none =>
      match s.pending with
      | reply :: rest => (reply.outcome, rest)
      | [] =>
          (.error (.transport ["No mock response queued for " ++ request.operation] none), [])

/-- Runs a document. The request is recorded whatever it is answered, even when there is no reply
for it. -/
def execute (document bindings : Value) (s : Script) : Except Failure Value × Script :=
  match Request.ofDocument document bindings with
  | .error cause => (.error cause, s)
  | .ok request =>
      let (outcome, pending) := s.answer request
      (outcome, { s with requests := s.requests ++ [request], pending := pending })

/-- The scripted transport. -/
def transport : Transport Script := ⟨execute⟩

end Script

end FacetSearch
