import FacetSearch.Proofs.Http.Payload
import FacetSearch.Proofs.Json.Depth

/-!
# `FacetSearch.Proofs.Http.Replies`: what a call gets from any reply

A reply is a status with a body, held as text or as bytes, and the body is read as a value or is
faulty (`Answer.content?`). It is clean data when the status is no error and the value is an object
without errors that count, whose `data` is an object (`IsClean`). A call returns this data and
nothing else; from any other reply it gets a failure of the transport with the status and at least
one message, and where errors count there is one message for each of them, in order (`Refuses`).
`execute_replied` says so of every query and variables that can be encoded, and every reply.

One kind of body is left out there. Brackets that stand in one another too deep end the call with a
failure that is not the transport's and that carries no status (`Json.decode_brackets`). A body is
of this kind only when it has more opening brackets than may stand in one another
(`Answer.ne_tooDeep_of_openings`).
-/

set_option autoImplicit false

namespace FacetSearch.Http

/-! ### Replies -/

/-- The status of a reply, and what its body is read as. -/
def Answer.content? : Answer → Option (Int × Except Json.Fault Value)
  | .response status body => some (status, Json.decode body)
  | .raw status body => some (status, (Json.orMalformed (pointsOfBytes? body)).bind Json.read)
  | _ => none

/-- The code points of the body of a reply, where they can be told from its bytes. -/
def Answer.points? : Answer → Option (List CodePoint)
  | .response _ body => bodyPoints? body
  | .raw _ body => pointsOfBytes? body
  | _ => none

/-- A body is not too deep when it has no more opening brackets than may stand in one another. -/
theorem Answer.ne_tooDeep_of_openings {answer : Answer} {status : Int}
    {content : Except Json.Fault Value} (h : answer.content? = some (status, content))
    (hfew : ∀ points, answer.points? = some points → Json.openings points ≤ Json.depthLimit) :
    content ≠ .error .tooDeep := by
  -- Text and bytes are read by one reader, which counts the brackets that are open.
  cases answer with
  | response code body =>
      cases h
      exact Json.orMalformed_bind_read_ne hfew
  | raw code body =>
      cases h
      exact Json.orMalformed_bind_read_ne hfew
  | failed message => cases h
  | badAddress => cases h
  | broken message => cases h

/-- Clean data: the status is no error, and the body is an object that has no errors that count and
an object as its data. -/
inductive IsClean (status : Int) : Except Json.Fault Value → Value → Prop where
  | intro {entries data : List (Value × Value)}
      (calm : ¬ (400 ≤ status ∧ status ≤ 599))
      (faultless : ∀ errors, Value.get? entries "errors" = some errors → errors.isTruthy = false)
      (held : Value.get? entries "data" = some (.map data)) :
      IsClean status (.ok (.map entries)) (.map data)

/-- The errors that stand under a name: those of a list, and anything else is one. A server may send
a single error where a list is expected. -/
def errorsIn : Value → List Value
  | .list items => items
  | other => [other]

/-- A text tells an error: it is the text of the error's message if there is one that counts, and
that of the error itself otherwise. -/
inductive Tells : Value → Text → Prop where
  | message {entries : List (Value × Value)} {message : Value}
      (found : Value.get? entries "message" = some message) (counts : message.isTruthy = true) :
      Tells (.map entries) message.plainString
  | itself {error : Value}
      (mute : ∀ entries message, error = .map entries →
        Value.get? entries "message" = some message → message.isTruthy = false) :
      Tells error error.plainString

/-- The messages with which a reply is refused: there is one, and when errors count there is one for
each of them. -/
structure Refuses (content : Except Json.Fault Value) (messages : List Text) : Prop where
  nonempty : messages ≠ []
  told : ∀ entries errors, content = .ok (.map entries) →
    Value.get? entries "errors" = some errors → errors.isTruthy = true →
      List.Forall₂ Tells (errorsIn errors) messages

/-- The message of an error tells it: the text of its own message where that counts, and of the
error itself otherwise. -/
theorem tells_errorMessage (error : Value) : Tells error (errorMessage error) := by
  cases error with
  | map entries =>
      -- A message that is missing counts no more than one that is empty.
      cases hcounts : ((Value.get? entries "message").getD .null).isTruthy with
      | true =>
          cases hfound : Value.get? entries "message" with
          | none =>
              rw [hfound] at hcounts
              cases hcounts
          | some message =>
              rw [hfound, Option.getD_some] at hcounts
              have htext : errorMessage (.map entries) = message.plainString := by
                simp [errorMessage, hfound, hcounts]
              rw [htext]
              exact .message hfound hcounts
      | false =>
          have htext : errorMessage (.map entries) = (Value.map entries).plainString := by
            simp [errorMessage, hcounts]
          rw [htext]
          refine .itself fun others message hentries hfound => ?_
          cases hentries
          rw [hfound] at hcounts
          exact hcounts
  | _ => exact .itself (by intro entries message h; cases h)

/-- Each error is told by its message. -/
theorem forall₂_tells (errors : List Value) :
    List.Forall₂ Tells errors (errors.map errorMessage) := by
  rw [List.forall₂_map_right_iff, List.forall₂_same]
  exact fun error _ => tells_errorMessage error

/-- Errors that count have their messages, one each, in order. -/
theorem errorMessages_of_truthy {entries : List (Value × Value)} {errors : Value}
    (hfound : Value.get? entries "errors" = some errors) (hcounts : errors.isTruthy = true) :
    errorMessages (.map entries) = (errorsIn errors).map errorMessage := by
  cases errors with
  | list items => simp [errorMessages, hfound, hcounts, errorsIn]
  | _ => simp [errorMessages, hfound, hcounts, errorsIn]

/-- There are no messages exactly when no errors count. An empty list, null and a zero do not count,
as anywhere in the code. -/
theorem errorMessages_eq_nil_iff {entries : List (Value × Value)} :
    errorMessages (.map entries) = [] ↔
      ∀ errors, Value.get? entries "errors" = some errors → errors.isTruthy = false := by
  constructor
  · intro hnone errors hfound
    cases hcounts : errors.isTruthy with
    | false => rfl
    | true =>
        rw [errorMessages_of_truthy hfound hcounts, List.map_eq_nil_iff] at hnone
        -- Errors that count and are no list are one error, so there would be a message.
        cases errors with
        | list items =>
            have hitems : items = [] := hnone
            rw [hitems] at hcounts
            cases hcounts
        | _ => cases hnone
  · intro h
    cases hfound : Value.get? entries "errors" with
    | none => simp [errorMessages, hfound, Value.isTruthy]
    | some errors => simp [errorMessages, hfound, h errors hfound]

/-- The data of a body is an object in an object. -/
theorem exists_of_dataOf? {body data : Value} (h : dataOf? body = some data) :
    ∃ entries inner, body = .map entries ∧ Value.get? entries "data" = some (.map inner) ∧
      data = .map inner := by
  cases body with
  | map entries =>
      rw [dataOf?] at h
      split at h
      · rename_i inner hheld
        exact ⟨entries, inner, rfl, hheld, (Option.some.inj h).symm⟩
      · cases h
  | _ => cases h

/-- The statuses that are no errors are those outside of 400 to 599; redirects are among them. -/
theorem isError_eq_false_iff {status : Int} :
    isError status = false ↔ ¬ (400 ≤ status ∧ status ≤ 599) := by
  rw [isError, Bool.and_eq_false_iff, decide_eq_false_iff_not, decide_eq_false_iff_not]
  omega

/-- Clean data is what a reply means, and nothing else of the reply is returned. -/
theorem interpretContent_of_isClean (operation : Text) {status : Int}
    {content : Except Json.Fault Value} {data : Value} (h : IsClean status content data) :
    interpretContent operation status content = .ok data := by
  obtain ⟨calm, faultless, held⟩ := h
  simp [interpretContent, errorMessages_eq_nil_iff.mpr faultless, isError_eq_false_iff.mpr calm,
    dataOf?, held]

/-- A reply that is no clean data and not too deep is refused with its status. -/
theorem exists_interpretContent_eq (operation : Text) {status : Int}
    {content : Except Json.Fault Value} (hdeep : content ≠ .error .tooDeep)
    (hclean : ∀ data, ¬ IsClean status content data) :
    ∃ messages, interpretContent operation status content
        = .error (.transport messages (some status)) ∧ Refuses content messages := by
  cases content with
  | error fault =>
      cases fault with
      | tooDeep => exact absurd rfl hdeep
      | malformed =>
          exact ⟨_, rfl, List.cons_ne_nil _ _, fun entries errors hcontent => by cases hcontent⟩
  | ok value =>
      -- The reasons to refuse a reply are tried in the order of the code: errors, the status, the
      -- data.
      cases hmessages : errorMessages value with
      | cons message others =>
          refine ⟨message :: others, ?_, List.cons_ne_nil _ _, ?_⟩
          · simp [interpretContent, hmessages]
          rintro entries errors hcontent hfound hcounts
          cases hcontent
          rw [← hmessages, errorMessages_of_truthy hfound hcounts]
          exact forall₂_tells (errorsIn errors)
      | nil =>
          -- No errors count, so any message will do.
          have hrefuses (message : Text) : Refuses (.ok value) [message] := by
            refine ⟨List.cons_ne_nil _ _, fun entries errors hcontent hfound hcounts => ?_⟩
            cases hcontent
            rw [errorMessages_eq_nil_iff.mp hmessages errors hfound] at hcounts
            cases hcounts
          cases hstatus : isError status with
          | true =>
              refine ⟨[statusText status ++ ": " ++ reasonPhrase status], ?_, hrefuses _⟩
              simp [interpretContent, hmessages, hstatus]
          | false =>
              cases hdata : dataOf? value with
              | none =>
                  refine ⟨["Operation " ++ operation ++ " returned no data"], ?_, hrefuses _⟩
                  simp [interpretContent, hmessages, hstatus, hdata]
              | some data =>
                  obtain ⟨entries, inner, rfl, hheld, rfl⟩ := exists_of_dataOf? hdata
                  exact absurd (.intro (isError_eq_false_iff.mp hstatus)
                    (errorMessages_eq_nil_iff.mp hmessages) hheld) (hclean _)

/-- A reply means the clean data that it holds and nothing else, and any other reply that is not too
deep is refused. -/
theorem interpretContent_eq_iff (operation : Text) {status : Int}
    {content : Except Json.Fault Value} (hdeep : content ≠ .error .tooDeep) :
    (∀ data, interpretContent operation status content = .ok data ↔ IsClean status content data) ∧
      ((∀ data, ¬ IsClean status content data) → ∃ messages,
        interpretContent operation status content = .error (.transport messages (some status)) ∧
          Refuses content messages) := by
  refine ⟨fun data => ⟨fun h => ?_, interpretContent_of_isClean operation⟩,
    exists_interpretContent_eq operation hdeep⟩
  -- What is returned is the clean data, since a reply without any is refused.
  by_cases hclean : ∃ other, IsClean status content other
  · obtain ⟨other, hother⟩ := hclean
    rw [interpretContent_of_isClean operation hother] at h
    cases h
    exact hother
  · obtain ⟨messages, hrefused, -⟩ :=
      exists_interpretContent_eq operation hdeep (not_exists.mp hclean)
    rw [hrefused] at h
    cases h

/-! ### Calls -/

/-- An answer from a server that is a reply means what its content does, whether the body was held
as text or as bytes. -/
theorem outcome_of_content? {post : Posted} (habsolute : post.address.isAbsolute = true)
    (config : Config) (operation : Text) {answer : Answer} {status : Int}
    {content : Except Json.Fault Value} (h : answer.content? = some (status, content)) :
    Wire.outcome config operation post answer = interpretContent operation status content := by
  -- Text and bytes differ in how the content is found, and in nothing after that.
  cases answer with
  | response code body =>
      cases h
      exact if_pos habsolute
  | raw code body =>
      cases h
      exact if_pos habsolute
  | failed message => cases h
  | badAddress => cases h
  | broken message => cases h

section

variable {wire : Wire} (hconfig : IsUsable wire.config) {query : Text} (hquery : query.IsUnicode)
  {bindings : Option (List (Text × Value))}
  (hnames : ∀ fields, bindings = some fields → (fields.map (·.1)).Nodup)
  (hencodable : Json.IsEncodable (.ofBindings bindings))
  {answer : Answer} {rest : List Answer} (hanswers : wire.answers = answer :: rest)

include hconfig hquery hnames hencodable hanswers

/-- A call gets what the next answer means: over a usable configuration the request is always
posted. -/
theorem exists_execute_eq :
    ∃ post, post.address.isAbsolute = true ∧
      (Wire.execute (.text query) (.ofBindings bindings) wire).1
        = Wire.outcome wire.config (Request.named query bindings).operation post answer := by
  obtain ⟨post, hpost, habsolute, -⟩ := exists_postedOf_of_isEncodable hconfig
    wire.connection.acquire.1 (Request.isEncodable_payload hquery hencodable)
  refine ⟨post, habsolute, ?_⟩
  simp only [Wire.execute, Request.ofDocument_eq query hnames, hpost, hanswers]

/-- **A reply is either clean data or a failure of the transport.** Over a usable configuration,
take a document and variables that can be encoded, and any answer of the server. When it is a reply
whose brackets do not stand in one another too deep, the call returns what the reply holds as clean
data and nothing else; when it holds none, the call gets a failure of the transport with the status
of the reply and at least one message, and where errors count they have one message each. A request
that fails on the way is such a failure without a status.

No reply is too deep that has no more opening brackets in its body than may stand in one another. -/
theorem execute_replied :
    (∀ status content, answer.content? = some (status, content) →
      ((∀ points, answer.points? = some points → Json.openings points ≤ Json.depthLimit) →
        content ≠ .error .tooDeep) ∧
      (content ≠ .error .tooDeep →
        (∀ data, (Wire.execute (.text query) (.ofBindings bindings) wire).1 = .ok data ↔
          IsClean status content data) ∧
        ((∀ data, ¬ IsClean status content data) → ∃ messages,
          (Wire.execute (.text query) (.ofBindings bindings) wire).1
            = .error (.transport messages (some status)) ∧ Refuses content messages))) ∧
    ∀ message, answer = .failed message → ∃ messages, messages ≠ [] ∧
      (Wire.execute (.text query) (.ofBindings bindings) wire).1
        = .error (.transport messages none) := by
  obtain ⟨post, habsolute, hexecute⟩ := exists_execute_eq hconfig hquery hnames hencodable hanswers
  constructor
  -- The reply is what the request gets over this configuration, so its reading settles the outcome.
  · intro status content hcontent
    refine ⟨Answer.ne_tooDeep_of_openings hcontent, fun hdeep => ?_⟩
    rw [hexecute, outcome_of_content? habsolute _ _ hcontent]
    exact interpretContent_eq_iff _ hdeep
  · rintro message rfl
    exact ⟨_, List.cons_ne_nil _ _, hexecute⟩

end

/-- A reply that lists an error beside its data is refused, and without the error it is data. -/
theorem execute_replied_partial_data :
    let wire (body : String) : Wire :=
      { config := { endpoint := "https://h.example/x" }, connection := .own (Binary64.ofInt 30),
        answers := [.response 200 body] }
    let call := Wire.execute (.text "query Q \x7b a \x7d") (.ofFields [("page", .int 0)])
    let rows := Value.ofFields [("rows", .list [])]
    let errors := Value.list [.text "down", .ofFields [("message", .text "late")]]
    let clean := "\x7b\"data\":\x7b\"rows\":[]\x7d\x7d"
    let mixed :=
      "\x7b\"data\":\x7b\"rows\":[]\x7d,\"errors\":[\"down\",\x7b\"message\":\"late\"\x7d]\x7d"
    (call (wire clean)).1 = .ok rows ∧
      ∃ messages, (call (wire mixed)).1 = .error (.transport messages (some 200)) ∧
        Refuses (.ok (.ofFields [("data", rows), ("errors", errors)])) messages := by
  intro wire call rows errors clean mixed
  have hconfig : IsUsable { endpoint := "https://h.example/x" } := ⟨_, _, rfl, rfl, rfl, rfl⟩
  have hrows : rows.IsJson Text.IsUnicode :=
    Value.isJson_single (Text.isUnicode_ofString _) (.list (List.forall_mem_nil _))
  have hlisted : errors.IsJson Text.IsUnicode :=
    .list <| List.forall_mem_cons.mpr ⟨.text (Text.isUnicode_ofString _),
      List.forall_mem_singleton.mpr (Value.isJson_single (Text.isUnicode_ofString _)
        (.text (Text.isUnicode_ofString _)))⟩
  -- Both replies are the texts of objects, so the theorem is applied to what they are read as.
  have hcall (fields : List (Text × Value)) {body : String}
      (hjson : (Value.ofFields fields).IsJson Text.IsUnicode)
      (hfits : Json.fits Json.depthLimit (.ofFields fields) = true)
      (hbody : Json.write jsonPoint (.ofFields fields) = body.toList.map .char) :=
    ((@execute_replied (wire body) hconfig "query Q \x7b a \x7d" (Text.isUnicode_ofString _)
      (some [("page", .int 0)]) (by rintro _ ⟨⟩; exact List.nodup_singleton _)
      ⟨_, rfl, CodePoint.areChars_map "\x7b\"page\":0\x7d".toList⟩
      (.response 200 body) [] rfl).1 200 (.ok (.ofFields fields))
      (congrArg (fun content => some (200, content)) (Json.decode_write hjson hfits hbody))).2
      (by rintro ⟨⟩)
  constructor
  · have hclean : IsClean 200 (.ok (.ofFields [("data", rows)])) rows :=
      .intro (by decide) (by rintro errors ⟨⟩) rfl
    exact ((hcall [("data", rows)] (Value.isJson_single (Text.isUnicode_ofString _) hrows)
      (by decide) (by decide)).1 rows).mpr hclean
  · have hvalues : ∀ field ∈ [(("data" : Text), rows), ("errors", errors)],
        field.2.IsJson Text.IsUnicode :=
      List.forall_mem_cons.mpr ⟨hrows, List.forall_mem_singleton.mpr hlisted⟩
    refine (hcall _ (.object (by decide) (by simp) hvalues) (by decide) (by decide)).2 ?_
    rintro other ⟨_, hfaultless, _⟩
    cases hfaultless errors rfl

/-- The call gets a failure that is not the transport's when the server, with status 200, answers
with an array whose brackets stand in one another too deep. -/
theorem execute_deep_array :
    ∃ failure, (Wire.execute (.text "query Q \x7b a \x7d") .null
        { config := { endpoint := "https://h.example/x" }, connection := .own (Binary64.ofInt 30),
          answers := [.response 200 (String.ofList
            (List.replicate 100000 '[' ++ List.replicate 100000 ']'))] }).1 = .error failure ∧
      ∀ messages status, failure ≠ .transport messages status := by
  refine ⟨.tooDeep, ?_, fun messages status h => by cases h⟩
  have hconfig : IsUsable { endpoint := "https://h.example/x" } := ⟨_, _, rfl, rfl, rfl, rfl⟩
  -- The request is posted, so the outcome is that of the body, which is too deep to be read.
  obtain ⟨post, habsolute, hexecute⟩ := @exists_execute_eq
    { config := { endpoint := "https://h.example/x" }, connection := .own (Binary64.ofInt 30),
      answers := [.response 200 (String.ofList
        (List.replicate 100000 '[' ++ List.replicate 100000 ']'))] }
    hconfig "query Q \x7b a \x7d" (Text.isUnicode_ofString _) none (fun fields h => by cases h)
    ⟨_, rfl, CodePoint.areChars_map "null".toList⟩ _ [] rfl
  refine hexecute.trans ?_
  rw [outcome_of_content? habsolute _ _ rfl, Json.decode_brackets (by decide)]
  rfl

end FacetSearch.Http
