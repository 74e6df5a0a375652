import FacetSearch.Http
import FacetSearch.Proofs.Facets.Encoded
import FacetSearch.Proofs.Json.Reader
import FacetSearch.Proofs.Json.Unambiguous
import FacetSearch.Proofs.OperationName
import FacetSearch.Proofs.Service.Plan

/-!
# `FacetSearch.Proofs.Http.Payload`: what is posted for a request

The variables of a request that a plain call sends are JSON (`Service.isJson_of_plan`). The payload
of such a request is a JSON object (`Request.exists_payload`), and over a usable configuration it is
posted (`Http.exists_postedOf`). The posted body carries the payload: it is the JSON text of it and
of no other value, and a reader reads the payload from it within its limits (`Http.Carries`).

Variables that are no JSON can have a text in a body all the same, such as those with a tuple in
them. The payload then has a text, too, and it is posted (`Request.isEncodable_payload`,
`Http.exists_postedOf_of_isEncodable`).

A body is encoded, so in both cases no surrogate may stand in it. The name of an operation is made
of word characters, so it has none whatever the document has (`OperationName.isUnicode_of_ofText?`).
-/

set_option autoImplicit false

namespace FacetSearch

/-! ### Payloads -/

/-- A value whose JSON text can be encoded: it has one, without surrogates. -/
def Json.IsEncodable (v : Value) : Prop := ∃ text, body v = .ok text ∧ CodePoint.AreChars text

/-- A name that is found in a document is made of word characters, so no surrogate is in it, even
when the document has some. -/
theorem OperationName.isUnicode_of_ofText? {document name : Text}
    (h : ofText? document = some name) : name.IsUnicode := by
  obtain ⟨points, hfind, rfl⟩ := Option.map_eq_some_iff.mp h
  intro point hpoint
  clear h
  generalize document.toList = text at hfind
  -- The name is found at some place of the document, so the search is followed to it. A surrogate
  -- is no word character.
  induction text with
  | nil => cases hfind
  | cons first rest ih =>
      rw [find?] at hfind
      split at hfind
      · rename_i found hhere
        obtain ⟨-, -, -, -, -, -, ⟨-, hword⟩, -⟩ := nameHere?_eq_some_iff.mp hhere
        cases hfind
        have hchar := List.all_eq_true.mp hword point hpoint
        cases point with
        | char c => exact ⟨c, rfl⟩
        | surrogate offset => cases hchar
      · exact ih hfind

/-- The fields of a payload: the document, the variables if there are any, and what comes last. -/
def Request.payloadFields (query : Text) (bindings : Option (List (Text × Value)))
    (last : List (Text × Value)) : List (Text × Value) :=
  ("query", .text query) ::
    ((bindings.map fun fields => (Text.ofString "variables", Value.ofFields fields)).toList ++ last)

/-- The payload of a request: the document comes first, and the name comes last, if there is one. An
empty name counts as none. -/
theorem Request.exists_last (query : Text) (bindings : Option (List (Text × Value))) :
    ∃ last : List (Text × Value),
      (Request.named query bindings).payload = .ofFields (payloadFields query bindings last) ∧
      (last = [] ∨ ∃ name : Text, name.IsUnicode ∧
        last = [(Text.ofString "operationName", Value.text name)]) := by
  refine ⟨_, rfl, ?_⟩
  rw [named]
  -- A name that is not found and one that is empty leave the entry out.
  cases hfound : OperationName.ofText? query with
  | none => exact .inl rfl
  | some name =>
      cases hname : name.isEmpty with
      | true => exact .inl (by simp [hname])
      | false =>
          exact .inr ⟨name, OperationName.isUnicode_of_ofText? hfound, by simp [hname]⟩

/-- The payload of a request is a JSON object when its variables are one. -/
theorem Request.exists_payload {query : Text} (hquery : query.IsUnicode)
    {bindings : Option (List (Text × Value))} (h : Value.AreJson Text.IsUnicode bindings) :
    ∃ fields, (Request.named query bindings).payload = .ofFields fields ∧
      (Value.ofFields fields).IsJson Text.IsUnicode := by
  obtain ⟨last, hpayload, hlast⟩ := exists_last query bindings
  refine ⟨_, hpayload, .object ?_ ?_ ?_⟩
  -- The names of the fields are fixed, so for each way to leave some out they can be compared.
  · cases bindings <;> rcases hlast with rfl | ⟨name, -, rfl⟩ <;> simp [payloadFields]
  · cases bindings <;> rcases hlast with rfl | ⟨name, -, rfl⟩ <;> simp [payloadFields]
  · simp only [payloadFields, List.forall_mem_cons, List.forall_mem_append, Option.mem_toList,
      Option.map_eq_some_iff]
    refine ⟨.text hquery, ?_, ?_⟩
    · rintro field ⟨fields, hfields, rfl⟩
      exact h fields hfields
    · rcases hlast with rfl | ⟨name, hname, rfl⟩
      · exact List.forall_mem_nil _
      · exact List.forall_mem_singleton.mpr (.text hname)

/-- The payload of a request can be encoded when its document and its variables can. The variables
need not be JSON for this: a tuple is written like a list. -/
theorem Request.isEncodable_payload {query : Text} (hquery : query.IsUnicode)
    {bindings : Option (List (Text × Value))} (h : Json.IsEncodable (.ofBindings bindings)) :
    Json.IsEncodable (Request.named query bindings).payload := by
  obtain ⟨last, hpayload, hlast⟩ := exists_last query bindings
  have hfields : ∀ field ∈ payloadFields query bindings last,
      field.1.IsUnicode ∧ Json.IsEncodable field.2 := by
    have htext {content : Text} (hcontent : content.IsUnicode) :
        Json.IsEncodable (.text content) := ⟨_, rfl, CodePoint.areChars_jsonQuoted hcontent⟩
    simp only [payloadFields, List.forall_mem_cons, List.forall_mem_append, Option.mem_toList,
      Option.map_eq_some_iff]
    refine ⟨⟨by simp, htext hquery⟩, ?_, ?_⟩
    · rintro field ⟨fields, rfl, rfl⟩
      exact ⟨by simp, h⟩
    · rcases hlast with rfl | ⟨name, hname, rfl⟩
      · exact List.forall_mem_nil _
      · exact List.forall_mem_singleton.mpr ⟨by simp, htext hname⟩
  -- Each field has its text, and the text of the payload is made of them.
  choose! text htext using fun field hfield => (hfields field hfield).2
  rw [hpayload, Json.IsEncodable, Value.ofFields_eq, Json.body,
    Json.bodyEntries_eq fun field hfield => (htext field hfield).1]
  refine ⟨_, rfl, Json.areChars_objectText (List.forall_mem_map.mpr fun field hfield => ?_)⟩
  rw [CodePoint.areChars_append, CodePoint.areChars_char_cons]
  exact ⟨CodePoint.areChars_jsonQuoted (hfields field hfield).1, (htext field hfield).2⟩

/-- A call whose request can be written in JSON and encoded: the page of a listing is a number and
its selection is plain, and no surrogate stands in the query that counts facets. -/
def Call.IsPlain (names : FacetNames) : Call → Prop
  | .catalog => True
  | .listing choice number => (∃ n, number = .int n) ∧ (Selection.coerce choice).IsPlain
  | .facets choice payload =>
      ∀ tables query, Catalog.coerce payload = .ok tables →
        FacetQuery.compile names (Selection.coerce choice) tables = .ok query →
          query.text.IsUnicode

namespace Service

variable {σ : Type} {s : Service σ}

/-- The document of a request that a plain call sends has no surrogate, and its variables are JSON
without any. One case for each kind of call. -/
theorem isJson_of_plan {size : Int} (hsize : s.pageSize = .int size) {c : Call}
    (hc : c.IsPlain s.names) {query : Text} {bindings : Option (List (Text × Value))}
    {read : Value → Except Failure Call.Result} (h : s.plan c = .asking query bindings read) :
    query.IsUnicode ∧ Value.AreJson Text.IsUnicode bindings := by
  cases c with
  | catalog =>
      obtain ⟨rfl, rfl, -⟩ := Plan.asking.inj h
      exact ⟨Text.isUnicode_ofString _, nofun⟩
  -- A query that counts facets carries its filters in its text, and has no variables.
  | facets choice catalog =>
      rw [plan, facetsPlan] at h
      split at h
      · cases h
      · rename_i found hfound
        obtain ⟨rfl, rfl, -⟩ := Plan.asking.inj h
        obtain ⟨tables, htables, hcompile⟩ := bind_eq_ok_iff.mp hfound
        exact ⟨hc tables found htables hcompile, nofun⟩
  | listing choice number =>
      obtain ⟨⟨n, rfl⟩, hplain⟩ := hc
      rw [plan, listingPlan, Value.atLeastZero_int, hsize] at h
      -- A listing without filters sends nothing, so there is nothing to show.
      cases hfilters : (Selection.coerce choice).hasFilters with
      | false =>
          simp only [hfilters] at h
          cases h
      | true =>
          simp only [hfilters] at h
          have hoffset : Value.times (.int (max n 0)) (.int size)
              = .ok (.int (max n 0 * size)) := rfl
          rw [hoffset] at h
          obtain ⟨rfl, rfl, -⟩ := Plan.asking.inj h
          refine ⟨Text.isUnicode_ofString _, ?_⟩
          rintro _ ⟨⟩
          refine .object (by simp [listingBindings]) (by simp [listingBindings]) ?_
          simp [listingBindings, hsize, Selection.isJson_toExpr hplain, Value.IsJson.int]

end Service

/-! ### What is posted -/

namespace Http

/-- A configuration with which requests can be sent: its endpoint is the address of a server, and
its headers can be written. -/
def IsUsable (config : Config) : Prop :=
  ∃ address headers, addressOf config.endpoint = .ok address ∧
    address.isAbsolute = true ∧ ownHeaders? config = some headers ∧
    hostFailure? address headers = none

/-- The code points of a posted body. -/
def Posted.points (post : Posted) : List CodePoint := post.body.toList.map .char

/-- How a posted body carries the payload of a request. -/
structure Carries (post : Posted) (request : Request) : Prop where
  /-- The body is the JSON text of the payload. -/
  written : Json.body request.payload = .ok post.points
  /-- No other value of JSON has this text. -/
  sole : ∀ v : Value, v.IsJson Text.IsAny → Json.body v = .ok post.points → v = request.payload
  /-- A payload that keeps to the limits of the reader is read from the body. -/
  read : Json.fits Json.depthLimit request.payload = true →
    Json.decode post.body = .ok request.payload

/-- Over a usable configuration a request whose payload can be encoded is posted to a server through
the given client, with the JSON text of the payload as its body. -/
theorem exists_postedOf_of_isEncodable {config : Config} (hconfig : IsUsable config)
    (client : Client) {request : Request} (h : Json.IsEncodable request.payload) :
    ∃ post, postedOf client config request = .ok post ∧ post.address.isAbsolute = true ∧
      Json.body request.payload = .ok post.points := by
  obtain ⟨address, headers, haddress, habsolute, hheaders, hhost⟩ := hconfig
  obtain ⟨text, htext, hchars⟩ := h
  obtain ⟨written, hstring, hwritten⟩ := Text.string?_of_isUnicode (t := .ofList text) hchars
  -- The text of the payload is made of characters, so it is a string that can be sent.
  have hbody : bodyOf request = .ok written := by
    rw [bodyOf, htext]
    show (Text.ofList text).string?.elim _ _ = _
    rw [hstring]
    rfl
  refine ⟨⟨client, address, withCredentials address (withContentType headers), written⟩, ?_,
    habsolute, ?_⟩
  · rw [postedOf, haddress, hheaders, hbody]
    show (Option.elim (hostFailure? address headers) (Except.ok ()) Except.error >>= _) = _
    rw [hhost]
    rfl
  · rw [htext]
    exact congrArg Except.ok (congrArg Text.toList hwritten)

/-- Over a usable configuration a request whose payload is a JSON object without surrogates is
posted to a server, and the body carries the payload. A server that reads JSON gets the payload and
nothing else. -/
theorem exists_postedOf {config : Config} (hconfig : IsUsable config) (client : Client)
    {request : Request} {fields : List (Text × Value)}
    (hpayload : request.payload = .ofFields fields)
    (hjson : (Value.ofFields fields).IsJson Text.IsUnicode) :
    ∃ post, postedOf client config request = .ok post ∧ post.address.isAbsolute = true ∧
      Carries post request := by
  have hbody : Json.body request.payload = .ok (Json.write jsonPoint (.ofFields fields)) := by
    rw [hpayload, Json.body_of_isJson hjson]
  obtain ⟨post, hpost, habsolute, hposted⟩ := exists_postedOf_of_isEncodable hconfig client
    ⟨_, hbody, Json.areChars_write hjson.isTree⟩
  have htext : Json.write jsonPoint (.ofFields fields) = post.points :=
    Except.ok.inj (hbody.symm.trans hposted)
  -- The body tells its payload, from the text and by reading the text back.
  refine ⟨post, hpost, habsolute, ⟨hposted, fun v hv hsame => ?_, fun hfits => ?_⟩⟩
  · rw [Json.body_of_isJson hv, ← htext] at hsame
    rw [hpayload]
    exact Json.eq_of_write_eq Json.isUndone_jsonPoint hv.isTree
      (hjson.imp fun _ _ => trivial).isTree (Except.ok.inj hsame)
  · rw [hpayload] at hfits ⊢
    exact Json.decode_write hjson hfits htext

end Http

end FacetSearch
