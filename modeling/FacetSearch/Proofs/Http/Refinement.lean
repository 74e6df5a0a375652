import FacetSearch.Proofs.Http.Payload
import FacetSearch.Proofs.Service.Queue

/-!
# `FacetSearch.Proofs.Http.Refinement`: a server that says what a script replies

A script replies with data or with errors. A server that says the same in JSON answers with status
200 and the data in an object, or with a status and the messages in a list of errors
(`Outcome.IsSaidBy`). A service cannot tell the two apart: calls over the one transport and over the
other have the same outcomes and log the same warnings, and what is posted carries what the script
records. This is `calls_refine`.

The transports build their request and read their answer each in its own way. For one document both
ways meet in `run_mirrors`. Everything above it is shared by the services, so one call keeps the
sessions alike, whether it sends a request or not (`call_mirrors`), and any number of calls does, by
induction (`calls_mirror`).
-/

set_option autoImplicit false

namespace FacetSearch.Http

/-! ### Replies and answers -/

/-- What comes back for a request: data, or errors with a status. -/
inductive Outcome where
  | data (entries : List (Value × Value))
  | errors (messages : List Text) (status : Int)

namespace Outcome

/-- The outcome as a prepared reply. -/
def reply : Outcome → Reply
  | data entries => .data (.map entries)
  | errors messages status => .failure (.ofMessages messages (some status))

/-- The status of a response with the outcome. -/
def status : Outcome → Int
  | data _ => 200
  | errors _ status => status

/-- An error as it is listed in a body. -/
def listed (message : Text) : Value := .ofFields [("message", .text message)]

/-- The content of a response with the outcome. -/
def content : Outcome → Value
  | data entries => .ofFields [("data", .map entries)]
  | errors messages _ => .ofFields [("errors", .list (messages.map listed))]

/-- Whether there is a message when there should be one, and no message is empty. -/
def IsTold : Outcome → Prop
  | data _ => True
  | errors messages _ => messages ≠ [] ∧ ∀ message ∈ messages, message.isEmpty = false

/-- A server says an outcome: its answer is a response with the status, and the body is read as the
content. -/
def IsSaidBy (outcome : Outcome) (answer : Answer) : Prop :=
  ∃ body, answer = .response outcome.status body ∧ Json.decode body = .ok outcome.content

end Outcome

/-- A server that writes the content of an outcome in JSON says it. So there are such servers for
all outcomes that can be written. -/
theorem Outcome.isSaidBy_write {outcome : Outcome} (hjson : outcome.content.IsJson Text.IsUnicode)
    (hfits : Json.fits Json.depthLimit outcome.content = true) {body : String}
    (hbody : Json.write jsonPoint outcome.content = body.toList.map .char) :
    outcome.IsSaidBy (.response outcome.status body) := by
  refine ⟨_, rfl, ?_⟩
  -- Both kinds of content are objects, and written objects are read from a body.
  cases outcome with
  | data entries => exact Json.decode_write hjson hfits hbody
  | errors messages status => exact Json.decode_write hjson hfits hbody

/-- The message of a listed error is the one that it lists, unless it is empty. An empty message
counts as none, and the error would be shown as a whole. -/
theorem errorMessage_listed {message : Text} (h : message.isEmpty = false) :
    errorMessage (Outcome.listed message) = message := by
  have htruthy : (Value.text message).isTruthy = true := by
    rw [Value.isTruthy, h]
    rfl
  show (if (Value.text message).isTruthy then (Value.text message).plainString else _) = _
  rw [if_pos htruthy]
  rfl

/-- The messages of listed errors are those that were listed, in order. -/
theorem errorMessages_errors {messages : List Text} {status : Int}
    (h : (Outcome.errors messages status).IsTold) :
    errorMessages (Outcome.errors messages status).content = messages := by
  obtain ⟨hne, hfilled⟩ := h
  have htruthy : (Value.list (messages.map Outcome.listed)).isTruthy = true := by
    simpa [Value.isTruthy] using hne
  show (if !(Value.list (messages.map Outcome.listed)).isTruthy then []
    else (messages.map Outcome.listed).map errorMessage) = messages
  rw [htruthy, List.map_map]
  refine (List.map_congr_left fun message hmessage => ?_).trans (List.map_id messages)
  exact errorMessage_listed (hfilled message hmessage)

/-- A response that says an outcome means what the reply stands for: data is data, and errors are a
failure with the same messages and the same status. -/
theorem interpret_of_decode (operation : Text) {outcome : Outcome} (htold : outcome.IsTold)
    {body : String} (h : Json.decode body = .ok outcome.content) :
    interpret operation outcome.status body = outcome.reply.outcome := by
  have hread : (Json.orMalformed (bodyPoints? body)).bind Json.read = .ok outcome.content := h
  rw [interpret, hread, interpretContent]
  cases outcome with
  | data entries => rfl
  | errors messages status =>
      have hmessages : messages.isEmpty = false := by
        simpa using htold.1
      simp only [errorMessages_errors htold, hmessages, Bool.not_false, if_true]
      simp only [Outcome.reply, Reply.outcome, Failure.ofMessages, hmessages, Outcome.status,
        Bool.false_eq_true, if_false]

/-- A request whose variables are JSON is posted, its payload is carried, and when the next answer
says an outcome, that is what the request gets. What was posted before stays. -/
theorem execute_of_isSaidBy {wire : Wire} (hconfig : IsUsable wire.config) {query : Text}
    (hquery : query.IsUnicode) {bindings : Option (List (Text × Value))}
    (hnames : ∀ fields, bindings = some fields → (fields.map (·.1)).Nodup)
    (hjson : Value.AreJson Text.IsUnicode bindings)
    {answer : Answer} {rest : List Answer} (hanswers : wire.answers = answer :: rest)
    {outcome : Outcome} (htold : outcome.IsTold) (hsaid : outcome.IsSaidBy answer) :
    ∃ post connection, Wire.execute (.text query) (.ofBindings bindings) wire
        = (outcome.reply.outcome,
          { wire with connection, posted := wire.posted ++ [post], answers := rest }) ∧
      Carries post (.named query bindings) := by
  obtain ⟨fields, hpayload, hfields⟩ := Request.exists_payload hquery hjson
  obtain ⟨post, hpost, habsolute, hcarries⟩ :=
    exists_postedOf hconfig wire.connection.acquire.1 hpayload hfields
  obtain ⟨body, rfl, hbody⟩ := hsaid
  refine ⟨post, wire.connection.acquire.2, ?_, hcarries⟩
  -- The answer is read as the outcome that it says, with the address of the request being absolute.
  have houtcome : Wire.outcome wire.config (Request.named query bindings).operation post
      (.response outcome.status body) = outcome.reply.outcome := by
    rw [Wire.outcome, if_pos habsolute, interpret_of_decode _ htold hbody]
  simp only [Wire.execute, Request.ofDocument_eq query hnames, hpost, hanswers, houtcome]

/-! ### Sessions -/

/-- A reply of a script and an answer of a server with the same outcome. -/
def Matches (reply : Reply) (answer : Answer) : Prop :=
  ∃ outcome : Outcome, reply = outcome.reply ∧ outcome.IsTold ∧ outcome.IsSaidBy answer

/-- A session over a scripted transport and one over HTTP are alike: the same is still to be
answered, what was posted carries what was recorded, and the same was logged. -/
structure Mirrors (config : Config) (session : Session Script) (other : Session Wire) : Prop where
  config : other.channel.config = config
  responder : session.channel.responder = none
  matched : List.Forall₂ Matches session.channel.pending other.channel.answers
  carried : List.Forall₂ Carries other.channel.posted session.channel.requests
  warnings : other.warnings = session.warnings

/-- The service over a scripted transport. -/
def scripted (size : Int) (names : FacetNames) : Service Script :=
  ⟨Script.transport, .int size, names⟩

/-- The service over HTTP. -/
def remote (size : Int) (names : FacetNames) : Service Wire :=
  ⟨Wire.transport, .int size, names⟩

section

variable (size : Int) (names : FacetNames)

/-- When the replies are enough for a call and those after it, there is one for the call if it asks,
and what it leaves is enough for those after it. A call that does not ask takes no reply. -/
theorem enough_of_cons {c : Call} {rest : List Call} {session : Session Script}
    (hresponder : session.channel.responder = none)
    (h : ((c :: rest).filterMap (scripted size names).request?).length
      ≤ session.channel.pending.length) :
    ((scripted size names).request? c ≠ none → session.channel.pending ≠ []) ∧
      (rest.filterMap (scripted size names).request?).length
        ≤ ((scripted size names).call c session).2.channel.pending.length := by
  cases hrequest : (scripted size names).request? c with
  | none =>
      rw [List.filterMap_cons_none hrequest] at h
      rw [(scripted size names).call_of_silent hrequest]
      exact ⟨fun hne => absurd rfl hne, h⟩
  -- A call that asks takes one reply, and the calls after it need one less.
  | some request =>
      rw [List.filterMap_cons_some hrequest, List.length_cons] at h
      rw [((scripted size names).call_of_request rfl hrequest hresponder).2, Script.afterRequest,
        List.length_tail]
      exact ⟨fun _ => List.ne_nil_of_length_pos (by omega), by omega⟩

variable {config : Config} (hconfig : IsUsable config)

include hconfig

/-- A document with JSON variables runs alike over both transports as long as there is a reply. -/
theorem run_mirrors {session : Session Script} {other : Session Wire}
    (h : Mirrors config session other) (hpending : session.channel.pending ≠ []) {query : Text}
    (hquery : query.IsUnicode) {bindings : Option (List (Text × Value))}
    (hnames : ∀ fields, bindings = some fields → (fields.map (·.1)).Nodup)
    (hjson : Value.AreJson Text.IsUnicode bindings) :
    ((remote size names).run (.text query) (.ofBindings bindings) other).1
        = ((scripted size names).run (.text query) (.ofBindings bindings) session).1 ∧
      Mirrors config ((scripted size names).run (.text query) (.ofBindings bindings) session).2
        ((remote size names).run (.text query) (.ofBindings bindings) other).2 := by
  obtain ⟨hother, hresponder, hmatched, hcarried, hwarnings⟩ := h
  -- The next reply of the script and the next answer of the server have one outcome.
  obtain ⟨reply, pending, hqueue⟩ := List.exists_cons_of_ne_nil hpending
  rw [hqueue] at hmatched
  obtain ⟨answer, answers, ⟨outcome, rfl, htold, hsaid⟩, hrest, hanswers⟩ :=
    List.forall₂_cons_left_iff.mp hmatched
  obtain ⟨post, connection, hexecute, hcarries⟩ :=
    execute_of_isSaidBy (hother ▸ hconfig) hquery hnames hjson hanswers htold hsaid
  -- The script records the request and takes the reply off its list.
  have hscript : (scripted size names).transport.execute (.text query) (.ofBindings bindings)
      session.channel = (outcome.reply.outcome,
        session.channel.afterRequest (.named query bindings)) := by
    have heq := Script.execute_eq hresponder query hnames
    rw [Script.answer_of_cons hresponder hqueue] at heq
    exact heq
  have hwire : (remote size names).transport.execute (.text query) (.ofBindings bindings)
      other.channel = _ := hexecute
  simp only [Service.run, hscript, hwire]
  refine ⟨trivial, hother, hresponder, ?_, ?_, ?_⟩
  · rw [Script.afterRequest, hqueue, List.tail_cons]
    exact hrest
  · exact List.rel_append hcarried (.cons hcarries .nil)
  · rw [hwarnings]

/-- A plain call is alike over both transports, if there is a reply in case that it asks. Both
services plan the call in the same way, so it only matters whether it asks. -/
theorem call_mirrors {c : Call} (hc : c.IsPlain names) {session : Session Script}
    {other : Session Wire}
    (h : Mirrors config session other)
    (hpending : (scripted size names).request? c ≠ none → session.channel.pending ≠ []) :
    ((remote size names).call c other).1 = ((scripted size names).call c session).1 ∧
      Mirrors config ((scripted size names).call c session).2
        ((remote size names).call c other).2 := by
  have hplans : (remote size names).plan c = (scripted size names).plan c := rfl
  rw [Service.call_eq, Service.call_eq, hplans]
  rw [Service.request?] at hpending
  -- A call that is settled sends nothing over either transport. One that asks runs its document
  -- over both, and reads one outcome.
  cases hplan : (scripted size names).plan c with
  | settled outcome => exact ⟨rfl, h⟩
  | asking query bindings read =>
      rw [hplan] at hpending
      obtain ⟨hquery, hjson⟩ := Service.isJson_of_plan rfl hc hplan
      obtain ⟨houtcome, hafter⟩ := run_mirrors size names hconfig h
        (hpending (Option.some_ne_none _)) hquery ((scripted size names).nodup_of_plan hplan) hjson
      rw [Service.follow, Service.follow, Run.andThen_apply Prod.mk.eta.symm,
        Run.andThen_apply Prod.mk.eta.symm, houtcome]
      exact ⟨rfl, hafter⟩

/-- Plain calls are alike over both transports as long as the replies last. By induction on the
calls, from one call. -/
theorem calls_mirror {cs : List Call} (hplain : ∀ c ∈ cs, c.IsPlain names)
    {session : Session Script}
    {other : Session Wire} (h : Mirrors config session other)
    (henough : (cs.filterMap (scripted size names).request?).length
      ≤ session.channel.pending.length) :
    ((remote size names).calls cs other).1 = ((scripted size names).calls cs session).1 ∧
      Mirrors config ((scripted size names).calls cs session).2
        ((remote size names).calls cs other).2 := by
  induction cs generalizing session other with
  | nil => exact ⟨rfl, h⟩
  | cons c rest ih =>
      -- The first call keeps the sessions alike and leaves enough replies, so the others go on from
      -- there.
      obtain ⟨hpending, hleft⟩ := enough_of_cons size names h.responder henough
      obtain ⟨houtcome, hafter⟩ :=
        call_mirrors size names hconfig (hplain c List.mem_cons_self) h hpending
      obtain ⟨houtcomes, hlast⟩ :=
        ih (fun d hd => hplain d (List.mem_cons_of_mem _ hd)) hafter hleft
      exact ⟨congrArg₂ List.cons houtcome houtcomes, hlast⟩

/-- **The transport over HTTP refines the scripted one.** Take plain calls, and outcomes of which
there are enough for the requests that the calls send. Over HTTP, with a usable configuration and a
server whose answers say the outcomes in turn, every call has the same outcome as over a script that
replies with them, and the same is logged. The script records the requests of the calls, and the
bodies that are posted carry them one by one. -/
theorem calls_refine {cs : List Call} (hplain : ∀ c ∈ cs, c.IsPlain names) {outcomes : List Outcome}
    (htold : ∀ outcome ∈ outcomes, outcome.IsTold) {answers : List Answer}
    (hsaid : List.Forall₂ Outcome.IsSaidBy outcomes answers) (connection : Connection)
    (henough : (cs.filterMap (scripted size names).request?).length ≤ outcomes.length) :
    let mocked := (scripted size names).calls cs ⟨{ pending := outcomes.map Outcome.reply }, []⟩
    let sent := (remote size names).calls cs ⟨{ config, connection, answers }, []⟩
    sent.1 = mocked.1 ∧ sent.2.warnings = mocked.2.warnings ∧
      mocked.2.channel.requests = cs.filterMap (scripted size names).request? ∧
      List.Forall₂ Carries sent.2.channel.posted mocked.2.channel.requests := by
  intro mocked sent
  -- Each outcome has a reply and an answer, so the two queues match one by one.
  have hmatched : List.Forall₂ Matches (outcomes.map Outcome.reply) answers := by
    rw [List.forall₂_map_left_iff]
    exact ((List.forall₂_and_left outcomes answers).mpr ⟨htold, hsaid⟩).imp
      fun outcome _ h => ⟨outcome, rfl, h⟩
  have hstart : Mirrors config ⟨{ pending := outcomes.map Outcome.reply }, []⟩
      ⟨{ config, connection, answers }, []⟩ := ⟨rfl, rfl, hmatched, .nil, rfl⟩
  obtain ⟨houtcomes, hlast⟩ := calls_mirror size names hconfig hplain hstart
    (by rw [List.length_map]; exact henough)
  exact ⟨houtcomes, hlast.warnings,
    (scripted size names).requests_calls rfl cs rfl, hlast.carried⟩

end

/-- The option tables are asked for, and the server refuses them. Then it has no profiles for a
listing, and three of them in all. -/
theorem calls_refine_refused_then_empty :
    let listing : Call := .listing (.ofFields [("types", .list [.text "a"])]) (.int 0)
    let calls := [.catalog, listing, .facets .null .null]
    let outcomes := [Outcome.errors ["down"] 503, .data [(.text "profileInfos", .list [])],
      .data [(.text "total", .ofFields [("_count", .int 3)])]]
    let answers := [Answer.response 503 "\x7b\"errors\":[\x7b\"message\":\"down\"\x7d]\x7d",
      .response 200 "\x7b\"data\":\x7b\"profileInfos\":[]\x7d\x7d",
      .response 200 "\x7b\"data\":\x7b\"total\":\x7b\"_count\":3\x7d\x7d\x7d"]
    (calls.filterMap (scripted 2 {}).request?).length = 3 ∧
      let mocked := (scripted 2 {}).calls calls ⟨{ pending := outcomes.map Outcome.reply }, []⟩
      let sent := (remote 2 {}).calls calls
        ⟨{ config := { endpoint := "https://h.example/x" },
            connection := .own (Binary64.ofInt 30), answers }, []⟩
      sent.1 = mocked.1 ∧ sent.2.warnings = mocked.2.warnings ∧
        mocked.2.channel.requests = calls.filterMap (scripted 2 {}).request? ∧
        List.Forall₂ Carries sent.2.channel.posted mocked.2.channel.requests := by
  intro listing calls outcomes answers
  have hconfig : IsUsable { endpoint := "https://h.example/x" } := ⟨_, _, rfl, rfl, rfl, rfl⟩
  have hunicode (s : String) : Text.IsUnicode s := Text.isUnicode_ofString s
  have hselection : (Selection.coerce (.ofFields [("types", .list [.text "a"])])).IsPlain := by
    refine ⟨?_, by rintro search ⟨⟩⟩
    rintro ⟨⟩ v hv
    · rw [List.mem_singleton.mp hv]
      exact .text (hunicode "a")
    all_goals cases hv
  have hcount : (Call.facets .null .null).IsPlain {} := by
    intro tables query htables hcompile
    cases htables
    exact FacetQuery.isUnicode_text ⟨by rintro ⟨⟩ v ⟨⟩, by rintro search ⟨⟩⟩ (hunicode _)
      (hunicode _) (by rintro ⟨⟩ row ⟨⟩) hcompile
  have hplain : ∀ c ∈ calls, c.IsPlain {} := by
    refine List.forall_mem_cons.mpr ⟨trivial, List.forall_mem_cons.mpr ⟨⟨⟨0, rfl⟩, hselection⟩, ?_⟩⟩
    exact List.forall_mem_singleton.mpr hcount
  have htold : ∀ outcome ∈ outcomes, outcome.IsTold := by
    refine List.forall_mem_cons.mpr ⟨⟨List.cons_ne_nil _ _, by decide⟩, ?_⟩
    exact List.forall_mem_cons.mpr ⟨trivial, List.forall_mem_singleton.mpr trivial⟩
  have hsingle {name : String} {value : Value} (h : value.IsJson Text.IsUnicode) :
      (Value.map [(.text name, value)]).IsJson Text.IsUnicode :=
    Value.isJson_single (hunicode name) h
  have hrefused : (Outcome.errors ["down"] 503).content.IsJson Text.IsUnicode :=
    hsingle (.list (List.forall_mem_singleton.mpr (hsingle (.text (hunicode "down")))))
  have hempty : (Outcome.data [(.text "profileInfos", .list [])]).content.IsJson Text.IsUnicode :=
    hsingle (hsingle (.list (List.forall_mem_nil _)))
  have htotal : (Outcome.data [(.text "total", .ofFields [("_count", .int 3)])]).content.IsJson
      Text.IsUnicode := hsingle (hsingle (hsingle (.int 3)))
  -- Each answer is the text of its outcome, which is checked by writing it.
  have hsaid : List.Forall₂ Outcome.IsSaidBy outcomes answers :=
    .cons (Outcome.isSaidBy_write hrefused (by decide) (by decide))
      (.cons (Outcome.isSaidBy_write hempty (by decide) (by decide))
        (.cons (Outcome.isSaidBy_write htotal (by decide) (by decide)) .nil))
  have hasked : (calls.filterMap (scripted 2 {}).request?).length = 3 := by decide
  exact ⟨hasked,
    calls_refine 2 {} hconfig hplain htold hsaid (.own (Binary64.ofInt 30)) hasked.le⟩

end FacetSearch.Http
