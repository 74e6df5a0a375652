import FacetSearch.Proofs.Service.Plan

/-!
# `FacetSearch.Proofs.Service.Queue`: replies and the calls that get them

A scripted transport without responder answers from a queue. Replies can be queued at any time
between the calls of a service. The main fact `Service.history_fair` says that after any history of
calls and replies the next call is served in turn (`IsServed`), that the log and the queue balance
(`IsBalanced`), and that what a call is answered has no effect on the calls after it.

* A call that asks nothing leaves the log and the queue as they were. This holds for a listing
  without filters and for a query that does not compile.
* A request is recorded once, behind all others, and takes the oldest reply. The call reads queued
  data, and a queued failure is its outcome as it is. When the queue is empty, the call fails and
  takes nothing.
* Every reply is handed out once, in the order of the queue, or is still queued.

All of it comes from what one call does, `call_of_silent` and `call_of_request`. The histories
follow by induction.
-/

set_option autoImplicit false

namespace FacetSearch

namespace Script

variable {script : Script}

/-- A request that finds a reply in the queue gets the oldest one, whatever the request is. -/
theorem answer_of_cons {reply : Reply} {rest : List Reply} (hresponder : script.responder = none)
    (hpending : script.pending = reply :: rest) (request : Request) :
    script.answer request = (reply.outcome, rest) := by
  simp only [answer, hresponder, hpending]

/-- A request that finds the queue empty gets a failure, which names the operation and has no
status. -/
theorem answer_of_nil (hresponder : script.responder = none) (hpending : script.pending = [])
    (request : Request) :
    script.answer request
      = (.error (.transport ["No mock response queued for " ++ request.operation] none), []) := by
  simp only [answer, hresponder, hpending]

/-- A script after a request without responder: the request is recorded, and the oldest reply is
gone. What the reply was makes no difference. -/
def afterRequest (script : Script) (request : Request) : Script :=
  { script with requests := script.requests ++ [request], pending := script.pending.tail }

/-- A valid request is recorded and answered, in one step: there is no reply without a record, and
no record without an attempt at a reply. -/
theorem execute_eq (hresponder : script.responder = none) (query : Text)
    {bindings : Option (List (Text × Value))}
    (h : ∀ fields, bindings = some fields → (fields.map (·.1)).Nodup) :
    execute (.text query) (.ofBindings bindings) script
      = ((script.answer (.named query bindings)).1,
        script.afterRequest (.named query bindings)) := by
  rw [execute, Request.ofDocument_eq query h]
  cases hpending : script.pending with
  | nil => simp only [answer_of_nil hresponder hpending, afterRequest, hpending, List.tail_nil]
  | cons reply rest =>
      simp only [answer_of_cons hresponder hpending, afterRequest, hpending, List.tail_cons]

end Script

namespace Service

/-! ### One call -/

section

variable {σ : Type}

/-- A call that asks nothing leaves the session as it is, over any transport. -/
theorem call_of_silent (s : Service σ) {c : Call} (h : s.request? c = none) (session : Session σ) :
    (s.call c session).2 = session := by
  rw [call_eq]
  rw [request?] at h
  cases hplan : s.plan c with
  | settled outcome => rfl
  | asking query bindings read =>
      rw [hplan] at h
      cases h

/-- The warnings of a session have no effect on a call. A call adds to them and never reads them. -/
theorem call_congr (s : Service σ) (c : Call) {session other : Session σ}
    (h : session.channel = other.channel) :
    (s.call c session).1 = (s.call c other).1 ∧
      (s.call c session).2.channel = (s.call c other).2.channel := by
  rw [call_eq]
  cases s.plan c with
  | settled outcome => exact ⟨rfl, h⟩
  | asking query bindings read =>
      simp only [follow, Run.andThen, run, h]
      cases (s.transport.execute (.text query) (.ofBindings bindings) other.channel).1 with
      | error cause => exact ⟨rfl, rfl⟩
      | ok data => exact ⟨rfl, rfl⟩

end

variable (s : Service Script)

/-- A call that sends a request over a scripted transport reads what the script answers to it,
and leaves the script as after that one request. With `call_of_silent` this is all that a call
can do. -/
theorem call_of_request (hs : s.transport = Script.transport) {c : Call} {request : Request}
    (h : s.request? c = some request) {session : Session Script}
    (hresponder : session.channel.responder = none) :
    (s.call c session).1 = (session.channel.answer request).1 >>= s.reading c ∧
      (s.call c session).2.channel = session.channel.afterRequest request := by
  rw [call_eq, reading]
  rw [request?] at h
  cases hplan : s.plan c with
  | settled outcome =>
      rw [hplan] at h
      cases h
  | asking query bindings read =>
      rw [hplan] at h
      cases h
      -- The plan asks, so the call is one request with the reading of its reply behind it.
      have hexecute : s.transport.execute (.text query) (.ofBindings bindings) session.channel
          = ((session.channel.answer (.named query bindings)).1,
            session.channel.afterRequest (.named query bindings)) := by
        rw [hs]
        exact Script.execute_eq hresponder query (s.nodup_of_plan hplan)
      simp only [follow, Run.andThen, run, hexecute]
      cases (session.channel.answer (.named query bindings)).1 with
      | error cause => exact ⟨rfl, rfl⟩
      | ok data => exact ⟨rfl, rfl⟩

/-- How a call is served, from the script before it to the script after it. The two kinds of reply
have a clause each beside the one for both: what is queued as data is read by the call, and what is
queued as a failure is not. -/
structure IsServed (c : Call) (before : Script) (outcome : Except Failure Call.Result)
    (after : Script) : Prop where
  /-- A call that asks nothing leaves the log and the queue as they were. -/
  silent : s.request? c = none → after = before
  /-- A request is recorded once, behind all others. -/
  recorded : ∀ request, s.request? c = some request →
    after.requests = before.requests ++ [request]
  /-- A request takes the oldest reply, and the call reads it. -/
  answered : ∀ request reply rest, s.request? c = some request → before.pending = reply :: rest →
    after.pending = rest ∧ outcome = reply.outcome >>= s.reading c
  /-- Data that was queued is read by the call, whatever it is. -/
  read : ∀ request data rest, s.request? c = some request →
    before.pending = .data data :: rest → outcome = s.reading c data
  /-- A failure that was queued is the outcome as it is. -/
  failed : ∀ request cause rest, s.request? c = some request →
    before.pending = .failure cause :: rest → outcome = .error cause
  /-- A request that finds the queue empty takes nothing, and the call fails. -/
  unanswered : ∀ request, s.request? c = some request → before.pending = [] →
    after.pending = [] ∧ ∃ messages, outcome = .error (.transport messages none)

/-- A call over a scripted transport without responder is served. Each clause reads one side of
`call_of_silent` or `call_of_request`. -/
theorem isServed_call (hs : s.transport = Script.transport) (c : Call) {session : Session Script}
    (hresponder : session.channel.responder = none) :
    s.IsServed c session.channel (s.call c session).1 (s.call c session).2.channel where
  silent h := by rw [s.call_of_silent h]
  recorded request h := by
    rw [(s.call_of_request hs h hresponder).2]
    rfl
  answered request reply rest h hpending := by
    obtain ⟨houtcome, hafter⟩ := s.call_of_request hs h hresponder
    rw [houtcome, hafter, Script.answer_of_cons hresponder hpending]
    exact ⟨by rw [Script.afterRequest, hpending, List.tail_cons], rfl⟩
  read request data rest h hpending := by
    rw [(s.call_of_request hs h hresponder).1, Script.answer_of_cons hresponder hpending]
    rfl
  failed request cause rest h hpending := by
    rw [(s.call_of_request hs h hresponder).1, Script.answer_of_cons hresponder hpending]
    rfl
  unanswered request h hpending := by
    obtain ⟨houtcome, hafter⟩ := s.call_of_request hs h hresponder
    rw [houtcome, hafter, Script.answer_of_nil hresponder hpending]
    exact ⟨by rw [Script.afterRequest, hpending, List.tail_nil], _, rfl⟩

/-- No call gives a script a responder. So a script without one stays without, and its replies come
from the queue alone. -/
theorem responder_call (hs : s.transport = Script.transport) (c : Call) {session : Session Script}
    (hresponder : session.channel.responder = none) :
    (s.call c session).2.channel.responder = none := by
  cases h : s.request? c with
  | none => rw [s.call_of_silent h, hresponder]
  | some request =>
      rw [(s.call_of_request hs h hresponder).2]
      exact hresponder

/-- After a call that sends a request the script does not depend on the reply that the call got, be
it data, a failure or none: the two scripts before may differ in their oldest reply, and in nothing
else. -/
theorem call_of_tail (hs : s.transport = Script.transport) {c : Call} {request : Request}
    (h : s.request? c = some request) {session other : Session Script}
    (hresponder : session.channel.responder = none)
    (hother : other.channel
      = { session.channel with pending := other.channel.pending })
    (htail : other.channel.pending.tail = session.channel.pending.tail) :
    (s.call c other).2.channel = (s.call c session).2.channel := by
  have hotherResponder : other.channel.responder = none := by
    rw [hother]
    exact hresponder
  rw [(s.call_of_request hs h hresponder).2, (s.call_of_request hs h hotherResponder).2,
    Script.afterRequest, Script.afterRequest, htail, hother]

/-- The requests of calls are recorded in the order of the calls. Calls that ask nothing leave no
gap in the log. -/
theorem requests_calls (hs : s.transport = Script.transport) (cs : List Call)
    {session : Session Script} (hresponder : session.channel.responder = none) :
    (s.calls cs session).2.channel.requests
      = session.channel.requests ++ cs.filterMap s.request? := by
  -- Each call appends its request, or nothing, to a log that the calls before it have written.
  induction cs generalizing session with
  | nil => exact (List.append_nil _).symm
  | cons c rest ih =>
      show (s.calls rest (s.call c session).2).2.channel.requests = _
      rw [ih (s.responder_call hs c hresponder)]
      cases h : s.request? c with
      | none => rw [s.call_of_silent h, List.filterMap_cons_none h]
      | some request =>
          rw [(s.call_of_request hs h hresponder).2, List.filterMap_cons_some h, List.append_cons]
          rfl

/-! ### Histories -/

/-- What the requests of a history get, each in turn: the oldest reply that is queued by then, or
nothing when there is none. A reply that is queued later comes too late for them. -/
def handed : List Event → List Reply → List (Option Reply)
  | [], _ => []
  | .queue reply :: rest, pending => handed rest (pending ++ [reply])
  | .call c :: rest, pending =>
      match s.request? c with
      | none => handed rest pending
      | some _ => pending.head? :: handed rest pending.tail

/-- The requests of the calls of a history, in the order of the calls. Which request a call sends
does not depend on the replies before it. -/
def sent (events : List Event) : List Request :=
  (events.filterMap Event.call?).filterMap s.request?

/-- How the log and the queue balance over a history, from the script before it to the script after
it. -/
structure IsBalanced (events : List Event) (before after : Script) : Prop where
  /-- The log has every request once, in the order of the calls. -/
  recorded : after.requests = before.requests ++ s.sent events
  /-- Every request gets a reply or nothing. -/
  served : (s.handed events before.pending).length = (s.sent events).length
  /-- Every reply is handed out once, in the order of the queue, or is still queued. -/
  conserved : before.pending ++ events.filterMap Event.reply?
    = (s.handed events before.pending).reduceOption ++ after.pending

/-- A history of two parts runs one part after the other, and the outcomes of the first part stand
before those of the second. -/
theorem history_append (events later : List Event) (session : Session Script) :
    s.history (events ++ later) session
      = ((s.history events session).1 ++ (s.history later (s.history events session).2).1,
        (s.history later (s.history events session).2).2) := by
  induction events generalizing session with
  | nil => rfl
  | cons event rest ih =>
      cases event with
      | queue reply => exact ih _
      | call c => simp only [List.cons_append, history, ih]

/-- The warnings of a session have no effect on a history, since they have none on its calls. -/
theorem history_congr (events : List Event) {session other : Session Script}
    (h : session.channel = other.channel) :
    (s.history events session).1 = (s.history events other).1 ∧
      (s.history events session).2.channel = (s.history events other).2.channel := by
  induction events generalizing session other with
  | nil => exact ⟨rfl, h⟩
  | cons event rest ih =>
      cases event with
      | queue reply => exact ih (congrArg (Script.queue · reply) h)
      | call c =>
          obtain ⟨houtcome, hchannel⟩ := s.call_congr c h
          obtain ⟨houtcomes, hlast⟩ := ih hchannel
          exact ⟨congrArg₂ List.cons houtcome houtcomes, hlast⟩

/-- No history gives a script a responder: queueing a reply does not, and no call does. -/
theorem responder_history (hs : s.transport = Script.transport) (events : List Event)
    {session : Session Script} (hresponder : session.channel.responder = none) :
    (s.history events session).2.channel.responder = none := by
  induction events generalizing session with
  | nil => exact hresponder
  | cons event rest ih =>
      cases event with
      | queue reply => exact ih hresponder
      | call c => exact ih (s.responder_call hs c hresponder)

/-- The log and the queue balance over every history. One event of the history moves at most one
reply, from what is still to be queued to the queue or from the queue to a request, and each of the
two moves keeps the order. -/
theorem isBalanced_history (hs : s.transport = Script.transport) (events : List Event)
    {session : Session Script} (hresponder : session.channel.responder = none) :
    s.IsBalanced events session.channel (s.history events session).2.channel := by
  -- On the history from its start, since what is handed out depends on what was queued before.
  induction events generalizing session with
  | nil => exact ⟨(List.append_nil _).symm, rfl, List.append_nil _⟩
  | cons event rest ih =>
      cases event with
      | queue reply =>
          -- A reply moves from what is still to be queued to the end of the queue.
          have hrest :=
            @ih { session with channel := session.channel.queue reply } hresponder
          refine ⟨hrest.recorded, hrest.served, ?_⟩
          have hconserved := hrest.conserved
          simp only [Script.queue, List.append_assoc, List.singleton_append] at hconserved
          exact hconserved
      | call c =>
          have hrest := @ih (s.call c session).2 (s.responder_call hs c hresponder)
          cases h : s.request? c with
          -- A call that asks nothing counts for neither side.
          | none =>
              have hsent : s.sent (.call c :: rest) = s.sent rest := by
                simp [sent, Event.call?, h]
              have hhanded : ∀ pending,
                  s.handed (.call c :: rest) pending = s.handed rest pending := by
                intro pending
                rw [handed, h]
              have hsession : (s.call c session).2 = session := s.call_of_silent h session
              show s.IsBalanced _ _ (s.history rest (s.call c session).2).2.channel
              rw [hsession] at hrest ⊢
              exact ⟨hsent ▸ hrest.recorded, by rw [hsent, hhanded, hrest.served],
                by rw [hhanded]; exact hrest.conserved⟩
          -- A call that asks adds its request to both sides, with what it is handed.
          | some request =>
              have hsent : s.sent (.call c :: rest) = request :: s.sent rest := by
                simp [sent, Event.call?, h]
              have hhanded : ∀ pending, s.handed (.call c :: rest) pending
                  = pending.head? :: s.handed rest pending.tail := by
                intro pending
                rw [handed, h]
              have hchannel := (s.call_of_request hs h hresponder).2
              rw [hchannel] at hrest
              refine ⟨?_, ?_, ?_⟩
              · rw [hsent, List.append_cons]
                exact hrest.recorded
              · rw [hsent, hhanded, List.length_cons, List.length_cons]
                exact congrArg (· + 1) hrest.served
              · have hconserved := hrest.conserved
                rw [hhanded]
                simp only [Script.afterRequest] at hconserved
                show _ ++ rest.filterMap Event.reply? = _
                -- The oldest reply leaves the queue for the request, if there is one.
                cases hpending : session.channel.pending with
                | nil =>
                    rw [hpending] at hconserved
                    exact hconserved
                | cons reply others =>
                    rw [hpending] at hconserved
                    exact congrArg (reply :: ·) hconserved

/-- A listing without filters sends nothing, even when its page has no number. -/
theorem request?_listing_of_not_hasFilters {choice : Value} (number : Value)
    (h : (Selection.coerce choice).hasFilters = false) :
    s.request? (.listing choice number) = none := by
  rw [request?, plan, listingPlan]
  cases number.atLeastZero with
  | error cause => rfl
  | ok page =>
      simp only [h, Bool.not_false, if_true]
      rfl

/-- A query that does not compile sends nothing, and its failure is the outcome. The session is the
one before, with its warnings. -/
theorem call_facets_of_error {choice catalog : Value} {cause : Failure}
    (h : s.facetQuery choice catalog = .error cause) (session : Session Script) :
    s.call (.facets choice catalog) session = (.error cause, session) := by
  rw [call, Run.andThen_apply (s.facetCounts_of_error h session)]
  rfl

/-- **No reply is lost, repeated or handed to the wrong call.** Take a service over a scripted
transport without responder, and any history of calls and of replies that are queued between them.
The log and the queue balance over it, and the call that comes next is served in turn. A listing
without filters and a query that does not compile leave log and queue as they were. What the call
is answered, be it data of any shape, a failure, or nothing at all, has no effect on the outcomes of
the calls after it, nor on the log and the queue that they leave. -/
theorem history_fair (pageSize : Value) (names : FacetNames) (requests : List Request)
    (pending : List Reply) (warnings : List Text) (events later : List Event) (c : Call) :
    let s : Service Script := ⟨Script.transport, pageSize, names⟩
    let start : Session Script := ⟨{ requests, pending }, warnings⟩
    let now := (s.history events start).2
    let next := (s.call c now).2
    s.IsBalanced events start.channel now.channel ∧
      s.IsServed c now.channel (s.call c now).1 next.channel ∧
      (∀ choice number, c = .listing choice number → (Selection.coerce choice).hasFilters = false →
        next.channel = now.channel) ∧
      (∀ choice catalog cause, c = .facets choice catalog →
        s.facetQuery choice catalog = .error cause →
        (s.call c now).1 = .error cause ∧ next.channel = now.channel) ∧
      s.history (events ++ .call c :: later) start
        = ((s.history events start).1 ++ (s.call c now).1 :: (s.history later next).1,
          (s.history later next).2) ∧
      ∀ request others, s.request? c = some request → others.tail = now.channel.pending.tail →
        let other := (s.call c ⟨{ now.channel with pending := others }, now.warnings⟩).2
        (s.history later other).1 = (s.history later next).1 ∧
          (s.history later other).2.channel = (s.history later next).2.channel := by
  intro s start now next
  have hnow : now.channel.responder = none := s.responder_history rfl events rfl
  refine ⟨s.isBalanced_history rfl events rfl, s.isServed_call rfl c hnow, ?_, ?_, ?_, ?_⟩
  · rintro choice number rfl hfilters
    exact congrArg Session.channel
      (s.call_of_silent (s.request?_listing_of_not_hasFilters number hfilters) now)
  · rintro choice catalog cause rfl hquery
    have hcall := s.call_facets_of_error hquery now
    exact ⟨congrArg Prod.fst hcall, congrArg (·.2.channel) hcall⟩
  · exact s.history_append events (.call c :: later) start
  -- The two queues differ in what the call takes off, so the scripts behind it are one, and later
  -- calls cannot tell.
  · intro request others hrequest htail other
    exact s.history_congr later (s.call_of_tail rfl hrequest hnow rfl htail)

end Service

end FacetSearch
