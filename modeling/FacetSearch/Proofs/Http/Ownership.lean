import FacetSearch.Http.Run
import Mathlib.Data.List.Nodup

/-!
# `FacetSearch.Proofs.Http.Ownership`: a transport closes the clients that it made, and no other

A transport uses a client that its caller gave, or makes clients of its own. `Wire.run_ownership`
says of whole lives of a transport (calls with any outcome, closing, entering and leaving contexts,
in any order) that it leaves a given client alone (`Wire.KeepsClient`) and looks after its own
(`Wire.ManagesClients`). Calls do not overlap, and to close a client succeeds.

A use changes the connection in one of three ways, whatever else happens in it (`Connection.after`,
`Wire.connection_step`), so the connection after a life depends on the uses alone
(`Wire.connection_run`). No use changes a connection over a given client. For a connection that
makes its own, each use keeps the account of the clients: those that came up are the closed ones and
the one in use, in the order of their numbers (`Connection.IsOwn`). All the rest is read off this
account.

A posted request has the client that it went through. A call posts its request through the client
that it asks for, and all else that it does it does as the first call over a new transport would
(`Wire.execute_eq`). A call through a closed client would break, but no such call occurs.
-/

set_option autoImplicit false

namespace FacetSearch.Http

/-- A use that asks for a client closes none. Entering a context asks and leaving it closes, but no
use does both, so a client that a use has asked for is still open after it. -/
theorem Use.closes_of_asks {use : Use} (h : use.asks = true) : use.closes = false := by
  cases use with
  | execute document bindings => rfl
  | _ => cases h

namespace Connection

/-! ### One use -/

/-- The numbers of the clients that came up and are not closed. They are read off the count of
clients and the log of the closed ones, not off the client in use: a client that was dropped without
being closed would show up here, and that there is none is what has to be shown. -/
def openNumbers (c : Connection) : List Nat :=
  (List.range c.count).filter fun number => !(c.closed.map Client.number).contains number

/-- The connection after one use of its transport. A use does one of three things to it, whatever
the rest of the use does: it asks for the client, it closes the client, or it leaves the connection
alone. -/
def after (c : Connection) (use : Use) : Connection :=
  if use.asks then c.acquire.2 else if use.closes then c.close else c

/-- The client that was asked for is the one in use. -/
theorem current_acquire (c : Connection) : c.acquire.2.current = some c.acquire.1 := by
  unfold acquire
  split
  · assumption
  · rfl

/-- To ask for a client closes none. -/
theorem closed_acquire (c : Connection) : c.acquire.2.closed = c.closed := by
  unfold acquire
  split
  · rfl
  · rfl

/-- The client in use is the one that is asked for. So asking twice without closing in between makes
one client. -/
theorem acquire_of_current {c : Connection} {client : Client} (h : c.current = some client) :
    c.acquire = (client, c) := by
  simp only [acquire, h]

/-- A use that asks gives the connection its client. -/
theorem after_of_asks {use : Use} (h : use.asks = true) (c : Connection) :
    c.after use = c.acquire.2 := if_pos h

/-- A use that closes the transport closes the connection. -/
theorem after_of_closes {use : Use} (h : use.closes = true) (c : Connection) :
    c.after use = c.close := by
  cases hasks : use.asks with
  | true =>
      rw [Use.closes_of_asks hasks] at h
      cases h
  | false => simp only [after, hasks, h, Bool.false_eq_true, if_false, if_true]

/-- A use that closes nothing leaves the client for the next request as it is. The connection itself
can change, as the use may make the client that the next request would have made. -/
theorem acquire_after {use : Use} (h : use.closes = false) (c : Connection) :
    (c.after use).acquire.1 = c.acquire.1 := by
  unfold after
  rw [h]
  split
  · rw [acquire_of_current c.current_acquire]
  · rfl

/-- A use that closes nothing keeps the client in use. -/
theorem current_after {use : Use} (h : use.closes = false) {c : Connection} {client : Client}
    (hcurrent : c.current = some client) : (c.after use).current = some client := by
  unfold after
  rw [h, acquire_of_current hcurrent]
  split
  · exact hcurrent
  · exact hcurrent

/-- What is closed stays closed: the log of closed clients only grows at its end. -/
theorem closed_prefix_after (c : Connection) (use : Use) : c.closed <+: (c.after use).closed := by
  unfold after
  split
  -- Only closing a client writes to the log, and it appends.
  · simp only [closed_acquire, List.prefix_refl]
  · split
    · unfold close
      split
      · exact List.prefix_append _ _
      · exact List.prefix_refl _
    · exact List.prefix_refl _

/-! ### Uses one after the other -/

/-- The connection after uses of its transport. -/
def afterAll (c : Connection) (uses : List Use) : Connection := uses.foldl after c

/-- No use changes a connection over a client of its caller's. It has its client already, so asking
makes none, and it does not own the client, so closing closes none. -/
theorem afterAll_given (timeout clientTimeout : Binary64) (uses : List Use) :
    (given timeout clientTimeout).afterAll uses = given timeout clientTimeout := by
  -- One use is a step from the connection to itself, and the uses follow by induction.
  have hafter : ∀ use, (given timeout clientTimeout).after use = given timeout clientTimeout := by
    intro use
    unfold after
    split
    · rfl
    · split <;> rfl
  unfold afterAll
  induction uses with
  | nil => rfl
  | cons use rest ih => rw [List.foldl_cons, hafter, ih]

/-- Uses that close nothing leave the client for the next request as it is, as one such use does. -/
theorem acquire_afterAll {uses : List Use} (h : ∀ use ∈ uses, use.closes = false)
    (c : Connection) : (c.afterAll uses).acquire.1 = c.acquire.1 := by
  unfold afterAll
  -- The connection changes along the way, so the induction is over all connections.
  induction uses generalizing c with
  | nil => rfl
  | cons use rest ih =>
      obtain ⟨huse, hrest⟩ := List.forall_mem_cons.mp h
      rw [List.foldl_cons, ih hrest, acquire_after huse]

/-- What is closed stays closed over any uses. -/
theorem closed_prefix_afterAll (c : Connection) (uses : List Use) :
    c.closed <+: (c.afterAll uses).closed := by
  unfold afterAll
  induction uses generalizing c with
  | nil => exact List.prefix_refl _
  | cons use rest ih => exact (c.closed_prefix_after use).trans (ih _)

/-! ### Clients of its own -/

/-- The account of a connection that makes its own clients: those that came up are the closed ones,
in the order in which they were closed, and behind them the one in use. Clients are numbered as they
come up and all have the timeout of the connection.

This is the invariant of every use. It says at once that no client is closed twice, since the
numbers of a range are apart, and that none is lost, since the range is complete. -/
structure IsOwn (timeout : Binary64) (c : Connection) : Prop where
  owned : c.owned = true
  configured : c.timeout = timeout
  made : c.closed ++ c.current.toList = (List.range c.count).map fun number => ⟨number, timeout⟩

variable {timeout : Binary64} {c : Connection}

/-- At the start no client came up. -/
theorem isOwn_own (timeout : Binary64) : (own timeout).IsOwn timeout := ⟨rfl, rfl, rfl⟩

namespace IsOwn

/-- Asking for a client keeps the account. Where one is in use nothing comes up, and otherwise a new
client comes up behind all others, with the next number. -/
theorem acquire (h : c.IsOwn timeout) : c.acquire.2.IsOwn timeout := by
  obtain ⟨howned, hconfigured, hmade⟩ := h
  unfold Connection.acquire
  split
  · exact ⟨howned, hconfigured, hmade⟩
  · rename_i hnone
    refine ⟨howned, hconfigured, ?_⟩
    -- Without one in use all clients are closed, and the new one ends the longer range.
    rw [hnone, Option.toList_none, List.append_nil] at hmade
    show c.closed ++ [⟨c.count, c.timeout⟩] = _
    rw [hmade, hconfigured, List.range_succ, List.map_append, List.map_singleton]

/-- Closing keeps the account: the client in use moves to the end of the closed ones, where it stood
behind them already. -/
theorem close (h : c.IsOwn timeout) : c.close.IsOwn timeout := by
  obtain ⟨howned, hconfigured, hmade⟩ := h
  unfold Connection.close
  split
  · rename_i client _ hcurrent
    refine ⟨howned, hconfigured, ?_⟩
    rw [hcurrent] at hmade
    show (c.closed ++ [client]) ++ [] = _
    rw [List.append_nil]
    exact hmade
  · exact ⟨howned, hconfigured, hmade⟩

/-- A closed connection has no client in use. This is where it matters that the connection owns its
clients, as it would keep one that its caller gave. -/
theorem current_close (h : c.IsOwn timeout) : c.close.current = none := by
  unfold Connection.close
  rw [h.owned]
  cases hcurrent : c.current with
  | none => exact hcurrent
  | some client => rfl

/-- One use keeps the account of the clients, as it asks for one, closes one or does neither. -/
theorem after (h : c.IsOwn timeout) (use : Use) : (c.after use).IsOwn timeout := by
  unfold Connection.after
  split
  · exact h.acquire
  · split
    · exact h.close
    · exact h

/-- The numbers of the clients: those closed, and behind them the one in use. -/
theorem numbers (h : c.IsOwn timeout) :
    c.closed.map Client.number ++ c.current.toList.map Client.number = List.range c.count := by
  rw [← List.map_append, h.made, List.map_map]
  exact List.map_id _

/-- No two of the clients have one number. -/
theorem nodup (h : c.IsOwn timeout) :
    (c.closed.map Client.number ++ c.current.toList.map Client.number).Nodup :=
  h.numbers ▸ List.nodup_range

/-- The client in use is open, and no other. Of the numbers up to the count, those of closed clients
are filtered out, and the account leaves the one in use. -/
theorem openNumbers_eq (h : c.IsOwn timeout) :
    c.openNumbers = c.current.toList.map Client.number := by
  obtain ⟨-, -, hdisjoint⟩ := List.nodup_append.mp h.nodup
  have hclosed : (c.closed.map Client.number).filter
      (fun number => !(c.closed.map Client.number).contains number) = [] := by
    refine List.filter_eq_nil_iff.mpr fun number hnumber => ?_
    rw [List.contains_iff_mem.mpr hnumber]
    exact Bool.false_ne_true
  -- The number of the one in use is not among those of the closed ones.
  have hcurrent : (c.current.toList.map Client.number).filter
      (fun number => !(c.closed.map Client.number).contains number)
        = c.current.toList.map Client.number := by
    refine List.filter_eq_self.mpr fun number hnumber => ?_
    rw [Bool.not_eq_true', ← Bool.not_eq_true, List.contains_iff_mem]
    exact fun hmem => hdisjoint number hmem number hnumber rfl
  unfold openNumbers
  rw [← h.numbers, List.filter_append, hclosed, hcurrent, List.nil_append]

/-- No client that is closed has the number of the one for the next request. -/
theorem number_not_mem_closed (h : c.IsOwn timeout) :
    c.acquire.1.number ∉ c.closed.map Client.number := by
  -- Asking for it puts it behind the closed ones, and no two of the clients have one number.
  have hnodup := h.acquire.nodup
  rw [closed_acquire, current_acquire, Option.toList_some, List.map_singleton] at hnodup
  obtain ⟨-, -, hdisjoint⟩ := List.nodup_append.mp hnodup
  intro hmem
  exact hdisjoint _ hmem _ (List.mem_singleton_self _) rfl

/-- The client for the next request is not closed. So a call never finds its client closed, and the
branch of a call for this case is not taken over a connection of its own. -/
theorem not_isClosed (h : c.IsOwn timeout) : c.isClosed c.acquire.1 = false := by
  unfold isClosed
  rw [← Bool.not_eq_true, List.contains_iff_mem]
  exact fun hmem => h.number_not_mem_closed (List.mem_map_of_mem hmem)

/-- Uses keep the account of the clients. -/
theorem afterAll (h : c.IsOwn timeout) (uses : List Use) : (c.afterAll uses).IsOwn timeout := by
  unfold Connection.afterAll
  induction uses generalizing c with
  | nil => exact h
  | cons use rest ih => exact ih (h.after use)

/-- The client in use is closed by the first use that closes the transport, and it is still closed
after the uses that follow. -/
theorem mem_closed_afterAll (h : c.IsOwn timeout) {client : Client}
    (hcurrent : c.current = some client) {uses : List Use}
    (hcloses : ∃ use ∈ uses, use.closes = true) : client ∈ (c.afterAll uses).closed := by
  -- Until the first use that closes the transport the client stays in use.
  induction uses generalizing c with
  | nil => simp at hcloses
  | cons use rest ih =>
      show client ∈ ((c.after use).afterAll rest).closed
      cases huse : use.closes with
      | false =>
          have hrest : ∃ later ∈ rest, later.closes = true := by
            simpa [huse] using hcloses
          exact ih (h.after use) (current_after huse hcurrent) hrest
      | true =>
          -- This is the first one: the client is closed by it and stays so over the rest.
          have hclose : client ∈ (c.after use).closed := by
            rw [after_of_closes huse, Connection.close, h.owned, hcurrent]
            exact List.mem_append_right _ (List.mem_singleton_self client)
          exact ((c.after use).closed_prefix_afterAll rest).subset hclose

/-- After a use that asks for a client, the next request goes through this client as long as nothing
is closed, and through another from then on. Clients are compared by number, as a client made anew
has the same timeout. -/
theorem number_acquire_afterAll_eq_iff (h : c.IsOwn timeout) {use : Use} (hasks : use.asks = true)
    (between : List Use) :
    ((c.after use).afterAll between).acquire.1.number = c.acquire.1.number ↔
      ∀ later ∈ between, later.closes = false := by
  constructor
  · -- What closes the transport closes the client in use, but the next request never goes through
    -- a closed one.
    intro hsame later hlater
    by_contra hcloses
    have hcurrent : (c.after use).current = some c.acquire.1 := by
      rw [after_of_asks hasks, current_acquire]
    have hclosed := (h.after use).mem_closed_afterAll hcurrent
      ⟨later, hlater, Bool.not_eq_false _ ▸ hcloses⟩
    have hopen := ((h.after use).afterAll between).number_not_mem_closed
    rw [hsame] at hopen
    exact hopen (List.mem_map_of_mem hclosed)
  · intro hcalm
    rw [acquire_afterAll hcalm, acquire_after (Use.closes_of_asks hasks)]

end IsOwn

end Connection

/-- A request as it is posted through another client. Nothing but the client changes, neither the
address nor the headers nor the body. -/
def Posted.through (client : Client) (post : Posted) : Posted := { post with client }

namespace Wire

/-! ### The transport -/

/-- What is posted through one client is posted through any other, and nothing but the client
changes. -/
theorem postedOf_eq_map (client other : Client) (config : Config) (request : Request) :
    postedOf client config request
      = (postedOf other config request).map (Posted.through client) := by
  -- Address, headers, body and host are looked at in turn, and none of them knows the client.
  unfold postedOf
  cases addressOf config.endpoint with
  | error cause => rfl
  | ok address =>
      cases ownHeaders? config with
      | none => rfl
      | some headers =>
          cases bodyOf request with
          | error cause => rfl
          | ok body =>
              cases hhost : hostFailure? address headers <;>
                simp [hhost, bind, Except.bind, Except.map, pure, Except.pure, Posted.through]

/-- What an answer means does not depend on the client that the request went through. -/
theorem outcome_through (client : Client) (config : Config) (operation : Text) (post : Posted)
    (answer : Answer) :
    outcome config operation (post.through client) answer
      = outcome config operation post answer := by
  cases answer <;> rfl

/-- A call does what the first call over a transport of its own would do: it has the same outcome,
posts the same, and leaves the same answers. Beside that it leaves the connection as its use does,
and what it posts goes through its own client. -/
theorem execute_eq (document bindings : Value) (w : Wire) :
    execute document bindings w
      = ((execute document bindings (own w.config w.answers)).1,
        { w with
          connection := w.connection.after (.execute document bindings)
          answers := (execute document bindings (own w.config w.answers)).2.answers
          posted := w.posted ++ (execute document bindings
            (own w.config w.answers)).2.posted.map (Posted.through w.client) }) := by
  -- A call branches on the request, on what is posted for it and on the next answer. None of them
  -- depends on the connection, so both calls take the same branch.
  cases hrequest : Request.ofDocument document bindings with
  | error cause =>
      have hafter : w.connection.after (.execute document bindings) = w.connection := by
        simp only [Connection.after, Use.asks, hrequest]
        rfl
      simp only [execute, hrequest, hafter, own, List.map_nil, List.append_nil]
  | ok request =>
      have hafter : w.connection.after (.execute document bindings) = w.connection.acquire.2 := by
        refine Connection.after_of_asks ?_ _
        simp only [Use.asks, hrequest]
        rfl
      have hthrough := postedOf_eq_map w.client (Connection.own w.config.timeout).acquire.1 w.config
        request
      cases hpost : postedOf (Connection.own w.config.timeout).acquire.1 w.config request with
      | error cause =>
          rw [hpost, client] at hthrough
          simp only [execute, hrequest, hthrough, hpost, hafter, own, Except.map, List.append_nil,
            List.map_nil]
      | ok post =>
          rw [hpost, client] at hthrough
          cases hanswers : w.answers with
          | nil =>
              simp only [execute, hrequest, hthrough, hpost, hanswers, hafter, own, Except.map,
                List.nil_append, List.map_cons, List.map_nil, client]
          | cons answer rest =>
              simp only [execute, hrequest, hthrough, hpost, hanswers, hafter, own, Except.map,
                List.nil_append, List.map_cons, List.map_nil, client, outcome_through]

/-- A call through a client that is not closed runs the document. The other branch of a call, the
failure through a closed client, is excluded wherever this is used. -/
theorem call_eq_execute {w : Wire} (h : w.connection.isClosed w.client = false)
    (document bindings : Value) : w.call document bindings = execute document bindings w :=
  if_neg (Bool.eq_false_iff.mp h)

/-- A call leaves the connection as its use does, however it ends, and keeps the configuration. -/
theorem connection_call (document bindings : Value) (w : Wire) :
    (w.call document bindings).2.connection = w.connection.after (.execute document bindings) ∧
      (w.call document bindings).2.config = w.config := by
  unfold call
  -- Both branches of a call run the document, and the closed one replaces the outcome alone.
  split
  · rw [execute_eq]
    exact ⟨rfl, rfl⟩
  · rw [execute_eq]
    exact ⟨rfl, rfl⟩

/-- A use does to the connection of a transport what it does to any connection, and it keeps the
configuration. -/
theorem connection_step (w : Wire) (use : Use) :
    (w.step use).2.connection = w.connection.after use ∧ (w.step use).2.config = w.config := by
  cases use with
  | execute document bindings => exact connection_call document bindings w
  | _ => exact ⟨rfl, rfl⟩

/-- So do uses one after the other: what a life of the transport does to its connection can be read
off the uses alone, without the configuration, the answers or the outcomes. -/
theorem connection_run (w : Wire) (uses : List Use) :
    (w.run uses).connection = w.connection.afterAll uses ∧ (w.run uses).config = w.config := by
  induction uses generalizing w with
  | nil => exact ⟨rfl, rfl⟩
  | cons use rest ih =>
      obtain ⟨hconnection, hconfig⟩ := w.connection_step use
      obtain ⟨hrest, hkept⟩ := ih (w.step use).2
      refine ⟨?_, hkept.trans hconfig⟩
      rw [hconnection] at hrest
      exact hrest

/-- The requests that a use posts: what the log of posted requests has after it and not before. -/
def sentBy (w : Wire) (use : Use) : List Posted := (w.step use).2.posted.drop w.posted.length

/-- A use posts its requests behind those posted before. Only a use that asks for a client posts
any, and what it posts goes through this client, provided that the client is open. -/
theorem posted_step {w : Wire} (h : w.connection.isClosed w.client = false) (use : Use) :
    (w.step use).2.posted = w.posted ++ w.sentBy use ∧
      ∀ post ∈ w.sentBy use, use.asks = true ∧ post.client = w.client := by
  cases use with
  | execute document bindings =>
      have hposted : (w.step (.execute document bindings)).2.posted
          = w.posted ++ (execute document bindings
            (own w.config w.answers)).2.posted.map (Posted.through w.client) := by
        show (w.call document bindings).2.posted = _
        rw [call_eq_execute h, execute_eq]
      -- What the call adds is what a first call posts, each request through the client in use.
      rw [sentBy, hposted, List.drop_left]
      refine ⟨rfl, fun post hpost => ?_⟩
      obtain ⟨first, hfirst, rfl⟩ := List.mem_map.mp hpost
      refine ⟨?_, rfl⟩
      cases hrequest : Request.ofDocument document bindings with
      | error cause =>
          simp only [execute, hrequest, own] at hfirst
          cases hfirst
      | ok request =>
          simp only [Use.asks, hrequest]
          rfl
  | _ =>
      -- The other uses post nothing, so the log is the same and nothing is left to be dropped.
      rw [sentBy]
      show w.posted = w.posted ++ w.posted.drop w.posted.length ∧
        ∀ post ∈ w.posted.drop w.posted.length, _
      rw [List.drop_length, List.append_nil]
      exact ⟨rfl, List.forall_mem_nil _⟩

/-! ### Main statement -/

/-- How a transport treats the client that its caller gave it, at one moment of its life. -/
structure KeepsClient (caller : Client) (now : Wire) : Prop where
  /-- The client is still in use. -/
  held : now.connection.current = some caller
  /-- No other client came up. -/
  sole : now.connection.count = 1
  /-- No client is closed. -/
  unclosed : now.connection.closed = []
  /-- Every request that was posted went through the client. -/
  used : ∀ post ∈ now.posted, post.client = caller
  /-- The next request goes through the client. -/
  next : now.client = caller
  /-- Every call goes through as over an open client. -/
  served : ∀ document bindings, now.call document bindings = execute document bindings now

/-- How a transport of some configuration treats the clients that it makes, at one moment of its
life. -/
structure ManagesClients (config : Config) (now : Wire) : Prop where
  /-- At most one client is open. -/
  single : now.connection.openNumbers.length ≤ 1
  /-- No client is closed twice. -/
  once : (now.connection.closed.map Client.number).Nodup
  /-- A use that closes the transport leaves no client open. -/
  released : ∀ use, use.closes = true → (now.step use).2.connection.openNumbers = []
  /-- A call that makes a request leaves the client open that is asked for. -/
  opened : ∀ use, use.asks = true → (now.step use).2.connection.openNumbers = [now.client.number]
  /-- What a use posts goes through this client. -/
  used : ∀ use, ∀ post ∈ now.sentBy use, post.client = now.client
  /-- Two calls ask for one client exactly when nothing is closed between them. -/
  kept : ∀ use between, use.asks = true →
    (((now.step use).2.run between).client.number = now.client.number ↔
      ∀ later ∈ between, later.closes = false)
  /-- Two requests that are posted go through one client exactly when nothing is closed between
  them. -/
  reused : ∀ use between again, ∀ first ∈ now.sentBy use,
    ∀ second ∈ ((now.step use).2.run between).sentBy again,
      (second.client.number = first.client.number ↔ ∀ later ∈ between, later.closes = false)
  /-- A call is answered as the first call over a new transport is, and it posts the same but for
  the client. -/
  answered : ∀ document bindings,
    let first := (own config now.answers).step (.execute document bindings)
    let again := now.step (.execute document bindings)
    again.1 = first.1 ∧ again.2.answers = first.2.answers ∧
      again.2.posted = now.posted ++ first.2.posted.map (Posted.through now.client)

/-- A transport keeps the client that its caller gave it, when all that it posted went through it.
-/
theorem keepsClient_of_given {now : Wire} {timeout clientTimeout : Binary64}
    (h : now.connection = .given timeout clientTimeout)
    (hused : ∀ post ∈ now.posted, post.client = ⟨0, clientTimeout⟩) :
    now.KeepsClient ⟨0, clientTimeout⟩ := by
  obtain ⟨config, connection, answers, posted⟩ := now
  obtain rfl : connection = .given timeout clientTimeout := h
  exact ⟨rfl, rfl, rfl, hused, rfl, call_eq_execute rfl⟩

/-- Whatever is done with a transport over a client of its caller's, its connection stays as it is,
and all that it posts goes through the client. The two are shown together: that a request goes
through the client needs the connection as it was at the start. -/
theorem run_given {clientTimeout : Binary64} {w : Wire} {timeout : Binary64}
    (hgiven : w.connection = .given timeout clientTimeout)
    (hused : ∀ post ∈ w.posted, post.client = ⟨0, clientTimeout⟩) (uses : List Use) :
    (w.run uses).connection = .given timeout clientTimeout ∧
      ∀ post ∈ (w.run uses).posted, post.client = ⟨0, clientTimeout⟩ := by
  induction uses generalizing w with
  | nil => exact ⟨hgiven, hused⟩
  | cons use rest ih =>
      have hclient : w.client = ⟨0, clientTimeout⟩ := by
        rw [client, hgiven]
        rfl
      -- A client that the caller gave is never marked as closed, so the call is not refused.
      have hopen : w.connection.isClosed w.client = false := by
        rw [hgiven]
        rfl
      obtain ⟨hposted, hsent⟩ := posted_step hopen use
      refine ih ?_ ?_
      · rw [(w.connection_step use).1, hgiven]
        exact Connection.afterAll_given timeout clientTimeout [use]
      · rw [hposted]
        exact List.forall_mem_append.mpr
          ⟨hused, fun post hpost => (hsent post hpost).2.trans hclient⟩

/-- After a use that asks for a client, the next request goes through this client exactly when
nothing is closed in between. -/
theorem number_client_run_iff {now : Wire} {timeout : Binary64} (h : now.connection.IsOwn timeout)
    {use : Use} (hasks : use.asks = true) (between : List Use) :
    ((now.step use).2.run between).client.number = now.client.number ↔
      ∀ later ∈ between, later.closes = false := by
  unfold client
  rw [(connection_run _ between).1, (now.connection_step use).1]
  exact h.number_acquire_afterAll_eq_iff hasks between

/-- A transport manages the clients that it makes. Every clause is read off the account of the
clients as it is now, after one more use or after more uses. -/
theorem managesClients_of_isOwn {config : Config} {now : Wire} (hconfig : now.config = config)
    {timeout : Binary64} (h : now.connection.IsOwn timeout) : now.ManagesClients config where
  single := by
    rw [h.openNumbers_eq, List.length_map]
    cases now.connection.current <;> simp
  once := (List.nodup_append.mp h.nodup).1
  released use huse := by
    rw [(now.connection_step use).1, (h.after use).openNumbers_eq, Connection.after_of_closes huse,
      h.current_close]
    rfl
  opened use huse := by
    rw [(now.connection_step use).1, (h.after use).openNumbers_eq, Connection.after_of_asks huse,
      Connection.current_acquire]
    rfl
  used use post hpost := ((posted_step h.not_isClosed use).2 post hpost).2
  kept _ between huse := number_client_run_iff h huse between
  reused use between again first hfirst second hsecond := by
    -- Each of the two went through the client that was asked for at its moment.
    obtain ⟨hasks, hthrough⟩ := (posted_step h.not_isClosed use).2 first hfirst
    have hlater : ((now.step use).2.run between).connection.IsOwn timeout := by
      rw [(connection_run _ between).1, (now.connection_step use).1]
      exact (h.after use).afterAll between
    obtain ⟨-, hagain⟩ := (posted_step hlater.not_isClosed again).2 second hsecond
    rw [hthrough, hagain]
    exact number_client_run_iff h hasks between
  answered document bindings := by
    -- Neither call finds its client closed, so both run the document.
    have hnow : now.call document bindings = execute document bindings now :=
      call_eq_execute h.not_isClosed document bindings
    have hfirst : (own config now.answers).call document bindings
        = execute document bindings (own config now.answers) :=
      call_eq_execute (Connection.isOwn_own config.timeout).not_isClosed document bindings
    dsimp only [step]
    rw [hnow, hfirst, execute_eq document bindings now, hconfig]
    exact ⟨rfl, rfl, rfl⟩

/-- **A transport closes the clients that it made, each once, and no other.** Whatever is done with
a transport, in any order and with any answers of the server:

* A client that the caller gave is never closed or replaced, and every request that is posted goes
  through it.
* Of the clients that the transport makes one is open at most, none is closed twice, and none is
  open after a use that closes the transport. Two requests that are posted go through one client
  when nothing is closed between them, and through two otherwise, and the one that a request went
  through is open after its call. What a call is answered, posts and leaves to be answered is what
  the first call over a new transport would, through the client of the call. -/
theorem run_ownership (config : Config) (answers : List Answer) :
    (∀ clientTimeout uses,
      ((given config clientTimeout answers).run uses).KeepsClient ⟨0, clientTimeout⟩) ∧
    ∀ uses, ((own config answers).run uses).ManagesClients config := by
  constructor
  -- A given client is the connection from the start, and no use changes that.
  · intro clientTimeout uses
    obtain ⟨hconnection, hused⟩ :=
      @run_given clientTimeout (given config clientTimeout answers) config.timeout rfl
        (List.forall_mem_nil _) uses
    exact keepsClient_of_given hconnection hused
  -- An own connection stays one under every use, so its clients are managed after any number of
  -- uses.
  · intro uses
    obtain ⟨hconnection, hconfig⟩ := (own config answers).connection_run uses
    have hown : ((own config answers).run uses).connection.IsOwn config.timeout := by
      rw [hconnection]
      exact (Connection.isOwn_own config.timeout).afterAll uses
    exact managesClients_of_isOwn hconfig hown

/-- A transport is used in two contexts. In the first one both requests that are posted go through
one client, which is closed at its end, and the request of the second one goes through another. -/
theorem run_ownership_two_contexts :
    let config : Config := { endpoint := "https://h.example/x" }
    let ask : Use := .execute (.text "query Q \x7b a \x7d") .null
    let inside := (Wire.own config [.failed "down"]).run [.enter]
    (inside.sentBy ask).length = 1 ∧
      (∀ first ∈ inside.sentBy ask, ∀ second ∈ ((inside.step ask).2.run [.enter]).sentBy ask,
        second.client.number = first.client.number) ∧
      ((inside.step ask).2.step .leave).2.connection.openNumbers = [] ∧
      ∀ first ∈ inside.sentBy ask, ∀ second ∈ ((inside.step ask).2.run [.leave, .enter]).sentBy ask,
        second.client.number ≠ first.client.number := by
  intro config ask inside
  have hinside := (run_ownership config [.failed "down"]).2 [.enter]
  have hasked := (run_ownership config [.failed "down"]).2 [.enter, ask]
  -- That a request goes out is computed. Through which client it goes comes from the main fact.
  have hone : (inside.sentBy ask).length = 1 := by decide +kernel
  refine ⟨hone, fun first hfirst second hsecond => ?_,
    hasked.released .leave rfl, fun first hfirst second hsecond hsame => ?_⟩
  · exact (hinside.reused ask [.enter] ask first hfirst second hsecond).mpr
      (List.forall_mem_singleton.mpr rfl)
  · have hopen := (hinside.reused ask [.leave, .enter] ask first hfirst second hsecond).mp hsame
    cases hopen .leave List.mem_cons_self

end Wire

end FacetSearch.Http
