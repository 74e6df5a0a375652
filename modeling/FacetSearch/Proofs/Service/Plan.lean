import FacetSearch.Proofs.Facets.Decoded
import FacetSearch.Proofs.Facets.Document
import FacetSearch.Proofs.Request
import FacetSearch.Service.Call

/-!
# `FacetSearch.Proofs.Service.Plan`: what a call asks and how it reads the reply

The three kinds of calls go the same way. Before anything is sent a call either is settled, or it
has a document with its variables and a way to read the reply. Which of the two it is depends on the
call, the page size and the names of a service, and not on its transport or on what was called
before: this is the plan of the call. `Service.call_eq` says that a call runs its plan. Whatever is
said about runs over one transport or another starts from there.
-/

set_option autoImplicit false

namespace FacetSearch

/-- What a call is going to do: nothing but return an outcome, or run a document and read the reply.
A plan has no state, and no transport either. -/
inductive Plan where
  | settled (outcome : Except Failure Call.Result)
  | asking (query : Text) (bindings : Option (List (Text × Value)))
      (read : Value → Except Failure Call.Result)

namespace Plan

/-- The request that a plan sends, if it sends one. It sends one at most. -/
def request? : Plan → Option Request
  | settled _ => none
  | asking query bindings _ => some (.named query bindings)

/-- The outcome of a plan whose request gets a reply. A plan that is settled has its outcome
whatever the reply would be. -/
def reading : Plan → Value → Except Failure Call.Result
  | settled outcome, _ => outcome
  | asking _ _ read, data => read data

end Plan

/-- A whole number, or zero when it is negative. A negative page number is no error: it stands for
the first page. -/
theorem Value.atLeastZero_int (n : Int) : atLeastZero (.int n) = .ok (.int (max n 0)) := by
  -- The number is compared as a quotient over one, which is how numbers of any kind are compared.
  by_cases h : 0 < n
  · have hpositive : isPositive (.int n) = .ok true := by
      show Except.ok (decide ((0 : Int) * (1 : Nat) < n * (1 : Nat))) = _
      exact congrArg Except.ok (decide_eq_true (by omega))
    rw [atLeastZero, hpositive, max_eq_left h.le]
    rfl
  · have hpositive : isPositive (.int n) = .ok false := by
      show Except.ok (decide ((0 : Int) * (1 : Nat) < n * (1 : Nat))) = _
      exact congrArg Except.ok (decide_eq_false (by omega))
    rw [atLeastZero, hpositive, max_eq_right (Int.not_lt.mp h)]
    rfl

namespace Run

variable {σ α β γ : Type}

/-- A step with a next one has the session of the step, and the next outcome if there is one: what
comes next reads the outcome and touches no session. -/
theorem andThen_apply {step : Run σ α} {session after : Session σ} {outcome : Except Failure α}
    (h : step session = (outcome, after)) (next : α → Except Failure β) :
    step.andThen next session = (outcome >>= next, after) := by
  rw [andThen, h]
  cases outcome <;> rfl

/-- Two next steps after a step are one. This brings a call that reads its reply in stages into the
form of a plan. -/
theorem andThen_andThen (step : Run σ α) (first : α → Except Failure β)
    (second : β → Except Failure γ) :
    (step.andThen first).andThen second = step.andThen fun x => first x >>= second := by
  funext session
  rcases hstep : step session with ⟨outcome, after⟩
  rw [andThen_apply (andThen_apply hstep first) second, andThen_apply hstep]
  cases outcome <;> rfl

end Run

namespace Service

variable {σ : Type}

/-- The variables of a listing under their names, in the order in which the document declares
them. -/
def listingBindings (s : Service σ) (selection : Selection) (offset : Value) :
    List (Text × Value) :=
  [("where", selection.toExpr.toWhere), ("limit", s.pageSize), ("offset", offset)]

/-- The plan of a listing. A selection without filters is settled by an empty page, and a page whose
number or offset cannot be told is settled by the failure. Only what is left asks. -/
def listingPlan (s : Service σ) (choice number : Value) : Plan :=
  match number.atLeastZero with
  | .error cause => .settled (.error cause)
  | .ok page =>
      if !(Selection.coerce choice).hasFilters then
        .settled (s.pageOf page none >>= fun listing => .ok (.page listing))
      else
        match page.times s.pageSize with
        | .error cause => .settled (.error cause)
        | .ok offset =>
            .asking Document.profileSearch
              (some (s.listingBindings (Selection.coerce choice) offset))
              fun data => do
                let listing ← s.pageOf page (some (← profilesOf data))
                return .page listing

/-- The query of a count of facets. The catalog is read first, so what is wrong with it comes before
anything that is wrong with the query. -/
def facetQuery (s : Service σ) (choice catalog : Value) : Except Failure FacetQuery :=
  Catalog.coerce catalog >>= FacetQuery.compile s.names (Selection.coerce choice)

/-- The plan of a count of facets. A query that does not compile is settled by its failure, and no
request is sent for it. -/
def facetsPlan (s : Service σ) (choice catalog : Value) : Plan :=
  match s.facetQuery choice catalog with
  | .error cause => .settled (.error cause)
  | .ok query => .asking query.text none fun data => do return .counts (← query.decode data)

/-- The plan of a call. The page size and the names are all that it takes from the service. -/
def plan (s : Service σ) : Call → Plan
  | .catalog =>
      .asking Document.filterMetadata none fun data => do return .catalog (← Catalog.ofPayload data)
  | .listing choice number => s.listingPlan choice number
  | .facets choice catalog => s.facetsPlan choice catalog

/-- The request that a call sends, if it sends one. -/
def request? (s : Service σ) (c : Call) : Option Request := (s.plan c).request?

/-- How a call reads the reply to its request. -/
def reading (s : Service σ) (c : Call) : Value → Except Failure Call.Result := (s.plan c).reading

/-- Runs a plan: a plan that is settled leaves the session as it is, and a plan that asks runs its
document once. -/
def follow (s : Service σ) : Plan → Run σ Call.Result
  | .settled outcome => fun session => (outcome, session)
  | .asking query bindings read => (s.run (.text query) (.ofBindings bindings)).andThen read

/-- A listing without filters sends nothing. The page is empty, and still numbered as asked. -/
theorem search_of_not_hasFilters (s : Service σ) {choice number page : Value}
    (hpage : number.atLeastZero = .ok page)
    (hfilters : (Selection.coerce choice).hasFilters = false) (session : Session σ) :
    s.search choice number session = (s.pageOf page none, session) := by
  rw [search]
  simp only [hpage, hfilters, Bool.not_false, if_true]

/-- A listing of a page without a number sends nothing, with filters and without. -/
theorem search_of_error (s : Service σ) {choice number : Value} {cause : Failure}
    (hpage : number.atLeastZero = .error cause) (session : Session σ) :
    s.search choice number session = (.error cause, session) := by
  rw [search]
  simp only [hpage]

/-- A listing of a page without an offset sends nothing. It gets so far only with filters. -/
theorem search_of_times_error (s : Service σ) {choice number page : Value} {cause : Failure}
    (hpage : number.atLeastZero = .ok page)
    (hfilters : (Selection.coerce choice).hasFilters = true)
    (hoffset : page.times s.pageSize = .error cause) (session : Session σ) :
    s.search choice number session = (.error cause, session) := by
  rw [search]
  simp only [hpage, hfilters, searchVariables, hoffset]
  rfl

/-- A listing runs its plan. Both decide alike and in one order: the number of the page, the
filters, the offset. -/
theorem search_eq (s : Service σ) (choice number : Value) :
    (s.search choice number).andThen (fun listing => .ok (.page listing))
      = s.follow (s.listingPlan choice number) := by
  funext session
  -- One case for each way a listing can end before it asks, and the last one for those that ask.
  cases hpage : number.atLeastZero with
  | error cause =>
      rw [Run.andThen_apply (s.search_of_error hpage session), listingPlan, hpage]
      rfl
  | ok page =>
      cases hfilters : (Selection.coerce choice).hasFilters with
      | false =>
          rw [Run.andThen_apply (s.search_of_not_hasFilters hpage hfilters session), listingPlan,
            hpage]
          simp only [hfilters, Bool.not_false, if_true, follow]
      | true =>
          cases hoffset : page.times s.pageSize with
          | error cause =>
              rw [Run.andThen_apply (s.search_of_times_error hpage hfilters hoffset session),
                listingPlan, hpage]
              simp only [hfilters, hoffset]
              rfl
          | ok offset =>
              rw [s.search_of_hasFilters hfilters hpage hoffset, Run.andThen_andThen, listingPlan,
                hpage]
              simp only [hfilters, hoffset, Bool.not_true, Bool.false_eq_true, if_false, follow,
                bind_assoc]
              rfl

/-- A query that does not compile is not sent, whether it is the catalog that is refused or the
query. -/
theorem facetCounts_of_error (s : Service σ) {choice catalog : Value} {cause : Failure}
    (h : s.facetQuery choice catalog = .error cause) (session : Session σ) :
    s.facetCounts choice catalog session = (.error cause, session) := by
  rw [facetQuery] at h
  rw [facetCounts]
  -- The failure is that of the catalog, or that of the query over its tables.
  cases hcatalog : Catalog.coerce catalog with
  | error other =>
      rw [hcatalog] at h
      cases h
      rfl
  | ok tables =>
      rw [hcatalog] at h
      have hquery : FacetQuery.compile s.names (Selection.coerce choice) tables = .error cause := h
      simp only [hquery]

/-- A query that compiles is sent, and the reply is decoded by the aliases of this very query. -/
theorem facetCounts_of_ok (s : Service σ) {choice catalog : Value} {query : FacetQuery}
    (h : s.facetQuery choice catalog = .ok query) :
    s.facetCounts choice catalog = (s.run (.text query.text) .null).andThen query.decode := by
  obtain ⟨tables, hcatalog, hquery⟩ := bind_eq_ok_iff.mp h
  funext session
  rw [facetCounts]
  simp only [hcatalog, hquery]

/-- A count of facets runs its plan, which is settled exactly when the query does not compile. -/
theorem facetCounts_eq (s : Service σ) (choice catalog : Value) :
    (s.facetCounts choice catalog).andThen (fun table => .ok (.counts table))
      = s.follow (s.facetsPlan choice catalog) := by
  cases hquery : s.facetQuery choice catalog with
  | error cause =>
      funext session
      rw [Run.andThen_apply (s.facetCounts_of_error hquery session), facetsPlan, hquery]
      rfl
  | ok query =>
      rw [s.facetCounts_of_ok hquery, Run.andThen_andThen, facetsPlan, hquery]
      rfl

/-- **A call runs its plan.** What it sends and how it reads the reply is settled before the
transport is asked, and does not depend on what was called before. -/
theorem call_eq (s : Service σ) (c : Call) : s.call c = s.follow (s.plan c) := by
  cases c with
  | catalog =>
      show ((s.run _ _).andThen _).andThen _ = _
      rw [Run.andThen_andThen]
      rfl
  | listing choice number => exact s.search_eq choice number
  | facets choice catalog => exact s.facetCounts_eq choice catalog

/-- The variables of every request have distinct names. So a request that is recorded is the one
that was made, with none of its variables overwritten. -/
theorem nodup_of_plan (s : Service σ) {c : Call} {query : Text}
    {bindings : Option (List (Text × Value))} {read : Value → Except Failure Call.Result}
    (h : s.plan c = .asking query bindings read) :
    ∀ fields, bindings = some fields → (fields.map (·.1)).Nodup := by
  intro fields hfields
  subst hfields
  -- The documents are long texts, so an equation of plans is taken apart and never computed.
  cases c with
  | catalog => cases (Plan.asking.inj h).2.1
  | facets choice catalog =>
      rw [plan, facetsPlan] at h
      split at h
      · cases h
      · cases (Plan.asking.inj h).2.1
  | listing choice number =>
      rw [plan, listingPlan] at h
      split at h
      · cases h
      · split at h
        · cases h
        · split at h
          · cases h
          · rw [← Option.some.inj (Plan.asking.inj h).2.1]
            show [Text.ofString "where", "limit", "offset"].Nodup
            decide

end Service

end FacetSearch
