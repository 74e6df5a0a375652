import FacetSearch.Service
import FacetSearch.Transport.Scripted

/-!
# `FacetSearch.Service.Call`: runs of calls

A caller asks a service for the option tables, for a page of profiles, or for facet counts. Calls
come one after the other, and each of them finds the session as the call before left it. Over a
scripted transport replies can be queued between the calls.
-/

set_option autoImplicit false

namespace FacetSearch

/-- What a caller asks of a service: one constructor for each of its three kinds of query, with the
arguments as the caller gives them. -/
inductive Call where
  | catalog
  | listing (choice number : Value)
  | facets (choice catalog : Value)

/-- What a call returns. -/
inductive Call.Result where
  | catalog (tables : Catalog)
  | page (listing : Page)
  | counts (table : CountTable)

/-- What happens to a service over a scripted transport: a call, or a reply that is queued before
the next one. -/
inductive Event where
  | call (c : Call)
  | queue (reply : Reply)

namespace Event

/-- The call of an event, if it is one. -/
def call? : Event → Option Call
  | .call c => some c
  | .queue _ => none

/-- The reply that an event queues, if it queues one. -/
def reply? : Event → Option Reply
  | .call _ => none
  | .queue reply => some reply

end Event

namespace Service

variable {σ : Type}

/-- Runs one call, and puts its result with those of the other kinds. -/
def call (s : Service σ) : Call → Run σ Call.Result
  | .catalog => s.loadCatalog.andThen fun tables => .ok (.catalog tables)
  | .listing choice number => (s.search choice number).andThen fun listing => .ok (.page listing)
  | .facets choice catalog =>
      (s.facetCounts choice catalog).andThen fun table => .ok (.counts table)

/-- Runs calls one after the other: the outcome of each, and the session after the last. -/
def calls (s : Service σ) :
    List Call → Session σ → List (Except Failure Call.Result) × Session σ
  | [], session => ([], session)
  | c :: rest, session =>
      let (outcome, after) := s.call c session
      let (outcomes, last) := s.calls rest after
      (outcome :: outcomes, last)

/-- Runs calls with replies queued between them: the outcome of each call, and the session after
the last event. -/
def history (s : Service Script) :
    List Event → Session Script → List (Except Failure Call.Result) × Session Script
  | [], session => ([], session)
  | .queue reply :: rest, session =>
      s.history rest { session with channel := session.channel.queue reply }
  | .call c :: rest, session =>
      let (outcome, after) := s.call c session
      let (outcomes, last) := s.history rest after
      (outcome :: outcomes, last)

end Service

end FacetSearch
