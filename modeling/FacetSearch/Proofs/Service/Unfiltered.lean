import FacetSearch.Proofs.Selection.Filters
import FacetSearch.Proofs.Service.Queue
import FacetSearch.Selection.Session

/-!
# `FacetSearch.Proofs.Service.Unfiltered`: an unfiltered listing is never requested

A listing without filters would fetch every profile, so the service answers it with an empty page of
its own. The test for filters and the conditions of the where clause are written apart, and the main
fact `Service.search_filtered_only` says that they cannot drift: there are filters exactly when
there are conditions, when the where expression is not the one that every profile meets, and when
the where mapping is not empty. A listing runs one document in this case and none in the other.

Over a scripted transport, with a responder or without, the log shows it
(`Script.requests_execute`): it grows by one request with filters and by none without.
-/

set_option autoImplicit false

namespace FacetSearch

/-- A valid request is recorded behind all others, however it is answered: by a responder, from the
queue, or not at all. -/
theorem Script.requests_execute (script : Script) (query : Text)
    {bindings : Option (List (Text × Value))}
    (h : ∀ fields, bindings = some fields → (fields.map (·.1)).Nodup) :
    (Script.execute (.text query) (.ofBindings bindings) script).2.requests
      = script.requests ++ [.named query bindings] := by
  rw [Script.execute, Request.ofDocument_eq query h]

/-- The variables of the listing of a page of a selection. Pages are numbered from zero, and a
negative number counts as zero. -/
def Selection.pageBindings (s : Selection) (size number : Int) : List (Text × Value) :=
  [("where", s.toExpr.toWhere), ("limit", .int size), ("offset", .int (max 0 number * size))]

namespace Service

variable {σ : Type}

/-- The page of a number without profiles is made as it is, for a size and a number that are
whole. -/
theorem pageOf_none (s : Service σ) {size : Int} (hsize : s.pageSize = .int size) (number : Int) :
    s.pageOf (.int number) none = .ok { number, size } := by
  rw [pageOf, hsize]
  rfl

/-- A listing without filters leaves the session as it is, whatever the page. The number may even be
one that cannot be told, and the listing then fails without a request. -/
theorem session_search_of_not_hasFilters (s : Service σ) {choice : Value}
    (h : (Selection.coerce choice).hasFilters = false) (number : Value) (session : Session σ) :
    (s.search choice number session).2 = session := by
  cases hpage : number.atLeastZero with
  | error cause => rw [s.search_of_error hpage]
  | ok page => rw [s.search_of_not_hasFilters hpage h]

/-- What a listing of a page does: with filters it runs one document and reads the reply, without it
returns the empty page. The test is made once, and the where clause is built only behind it. -/
theorem search_int (s : Service σ) {size : Int} (hsize : s.pageSize = .int size) (choice : Value)
    (number : Int) (session : Session σ) :
    s.search choice (.int number) session
      = if (Selection.coerce choice).hasFilters then
          (s.run (.text Document.profileSearch)
            (.ofFields ((Selection.coerce choice).pageBindings size number))).andThen
            (fun data => do s.pageOf (.int (max 0 number)) (some (← profilesOf data))) session
        else (.ok { number := max 0 number, size := size }, session) := by
  have hpage : Value.atLeastZero (.int number) = .ok (.int (max 0 number)) := by
    rw [Value.atLeastZero_int, max_comm]
  -- The offset is a product of whole numbers, so with filters nothing can fail before the request.
  cases hfilters : (Selection.coerce choice).hasFilters with
  | false =>
      rw [s.search_of_not_hasFilters hpage hfilters, s.pageOf_none hsize]
      rfl
  | true =>
      have hoffset : Value.times (.int (max 0 number)) s.pageSize
          = .ok (.int (max 0 number * size)) := by
        rw [hsize]
        rfl
      rw [s.search_of_hasFilters hfilters hpage hoffset, hsize, if_pos rfl]
      rfl

/-- The log of a scripted transport after a step that runs one document: it has that one request
more, whatever is read off the reply. -/
theorem requests_run (s : Service Script) (hs : s.transport = Script.transport) (query : Text)
    {fields : List (Text × Value)} (hfields : (fields.map (·.1)).Nodup) {α : Type}
    (next : Value → Except Failure α) (session : Session Script) :
    ((s.run (.text query) (.ofFields fields)).andThen next session).2.channel.requests
      = session.channel.requests ++ [.named query (some fields)] := by
  -- The run records the request. What comes behind it touches no session.
  have hrun : (s.run (.text query) (.ofFields fields) session).2.channel.requests
      = session.channel.requests ++ [.named query (some fields)] := by
    have hlog := @Script.requests_execute session.channel query (some fields)
      fun _ h => Option.some.inj h ▸ hfields
    have hchannel : (s.run (.text query) (.ofFields fields) session).2.channel
        = (s.transport.execute (.text query) (.ofFields fields) session.channel).2 := rfl
    rw [hchannel, hs]
    exact hlog
  rcases hstep : s.run (.text query) (.ofFields fields) session with ⟨outcome, after⟩
  rw [hstep] at hrun
  rw [Run.andThen_apply hstep]
  exact hrun

/-- **An unfiltered listing is never requested.** Take any value for a selection, leave out any
dimensions one by one, and ask for the selection that is left in any form.

* It has filters exactly when it has conditions, exactly when its where expression is not the one
  that every profile meets, and exactly when its where mapping is not empty.
* Over any transport and for any page a listing without filters leaves the session as it is. For a
  page with a number it returns the empty page, numbered from zero. A listing with filters runs one
  document, and its `where` variable is the where mapping.
* The log of a scripted transport grows by one request with filters and by none without. -/
theorem search_filtered_only (choice : Value) (ds : List Dimension) {asked : Value}
    (hasked : Selection.coerce asked = (Selection.coerce choice).withoutAll ds) :
    let s := (Selection.coerce choice).withoutAll ds
    (s.hasFilters = true ↔ s.conditions ≠ []) ∧
      (s.conditions ≠ [] ↔ s.toExpr ≠ .everything) ∧
      (s.toExpr ≠ .everything ↔ s.toExpr.toWhere ≠ .map []) ∧
      (∀ (service : Service σ) (session : Session σ),
        (s.hasFilters = false → ∀ number : Value,
          (service.search asked number session).2 = session) ∧
        ∀ size number : Int, service.pageSize = .int size →
          service.search asked (.int number) session
            = if s.hasFilters then
                (service.run (.text Document.profileSearch)
                  (.ofFields (s.pageBindings size number))).andThen
                  (fun data => do service.pageOf (.int (max 0 number)) (some (← profilesOf data)))
                  session
              else (.ok { number := max 0 number, size := size }, session)) ∧
      ∀ (service : Service Script) (session : Session Script) (size number : Int),
        service.transport = Script.transport → service.pageSize = .int size →
        (service.search asked (.int number) session).2.channel.requests
          = session.channel.requests ++
            if s.hasFilters then
              [.named Document.profileSearch (some (s.pageBindings size number))]
            else [] := by
  intro s
  -- The three tests are negated facts about the selection. The runs follow from what a listing of
  -- it does.
  refine ⟨?_, (not_congr s.toExpr_eq_everything_iff).symm,
    (not_congr s.toExpr.toWhere_eq_empty_iff).symm, fun service session => ⟨?_, ?_⟩, ?_⟩
  · rw [Ne, s.conditions_eq_nil_iff, Bool.not_eq_false]
  · intro hfilters number
    exact service.session_search_of_not_hasFilters (hasked ▸ hfilters) number session
  · intro size number hsize
    rw [service.search_int hsize, hasked]
  · intro service session size number htransport hsize
    rw [service.search_int hsize, hasked]
    cases hfilters : s.hasFilters with
    | false => rw [if_neg Bool.false_ne_true, if_neg Bool.false_ne_true, List.append_nil]
    | true =>
        rw [if_pos rfl, if_pos rfl]
        refine service.requests_run htransport _ ?_ _ session
        show [Text.ofString "where", "limit", "offset"].Nodup
        decide

/-- The main fact at a choice of one type with a blank search. A listing of it sends a request. Once
the types are left out, a listing of a page with a negative number sends none. -/
theorem search_filtered_only_narrowed :
    let choice := Value.map [(.text "types", .list [.text "1"]), (.text "search", .text "  ")]
    let narrowed := Value.selection ((Selection.coerce choice).withoutAll [.types])
    let service : Service Script := ⟨Script.transport, .int 25, {}⟩
    let session : Session Script := { channel := {} }
    (service.search choice (.int 0) session).2.channel.requests
        = [.named Document.profileSearch (some ((Selection.coerce choice).pageBindings 25 0))] ∧
      service.search narrowed (.int (-3)) session = (.ok { number := 0, size := 25 }, session) := by
  intro choice narrowed service session
  have hfilters : ((Selection.coerce choice).withoutAll []).hasFilters = true := by decide
  have hnone : ((Selection.coerce choice).withoutAll [.types]).hasFilters = false := by decide
  -- The same main fact before and after the types are left out.
  have hlog := (@search_filtered_only Script choice [] choice rfl).2.2.2.2 service session 25 0 rfl
    rfl
  have hpage := ((@search_filtered_only Script choice [.types] narrowed rfl).2.2.2.1 service
    session).2 25 (-3) rfl
  have hstart : (Selection.coerce choice).withoutAll [] = Selection.coerce choice := rfl
  have hlast : max (0 : Int) (-3) = 0 := by decide
  rw [if_pos hfilters, hstart] at hlog
  rw [hnone, hlast] at hpage
  exact ⟨hlog, hpage⟩

end Service

end FacetSearch
