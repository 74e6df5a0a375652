import FacetSearch.Proofs.Service.Plan

/-!
# `FacetSearch.Proofs.Service.Paging`: a walk through the pages visits every profile once

A caller that wants all results lists page after page, from page zero on, as long as a page says
that there may be a next one. `Service.Walks` is this walk. The server side is any transport that
answers a request for profiles with the rows from the offset on, as many as the limit says
(`Transport.Lists`).

The main fact `Service.walk_visits` says that there is exactly one walk, that it ends after the
number of full pages and one more, and that its pages put one behind the other are the rows. The
positions that a page gives for its first and last profile are their positions among the rows, and
the next page goes on right behind them. A page with a negative number is page zero.

The rows of a page are a slice (`pageAt`), and a listing returns it (`search_of_lists`). A page says
that there is a next one exactly when it lies before the last (`hasNext_pageAt`), so the walk is an
induction on the pages that remain. That the slices make up the rows is `flatMap_pageAt`.
-/

set_option autoImplicit false

namespace FacetSearch

/-- A transport that lists rows: from a state that is ready, it answers a request for profiles with
the rows from the offset on, at most as many as the limit says, and it stays ready. What the clause
says makes no difference: the rows are those that the server found for it. -/
def Transport.Lists {σ : Type} (t : Transport σ) (ready : σ → Prop)
    (rows : List (List (Text × Value))) : Prop :=
  ∀ (clause : Value) (limit offset : Nat) (channel : σ), ready channel →
    ∃ entries after,
      t.execute (.text Document.profileSearch) (.ofFields
        [("where", clause), ("limit", .int limit), ("offset", .int offset)]) channel
          = (.ok (.map entries), after) ∧
      ready after ∧
      Value.get? entries "profileInfos"
        = some (.list (((rows.drop offset).take limit).map .ofFields))

/-- The transport over fixed rows. It reads the limit and the offset off the variables, as a server
does, and fails a request that does not give both. -/
def Transport.listing (rows : List (List (Text × Value))) : Transport Unit where
  execute _ bindings channel :=
    match bindings with
    | .map entries =>
        match Value.get? entries "limit", Value.get? entries "offset" with
        | some (.int limit), some (.int offset) =>
            (.ok (.ofFields [("profileInfos",
              .list (((rows.drop offset.toNat).take limit.toNat).map .ofFields))]), channel)
        | _, _ => (.error .noMember, channel)
    | _ => (.error .noMember, channel)

/-- The transport over fixed rows lists them, in its one state. So the walk below is one that there
is. -/
theorem Transport.lists_listing (rows : List (List (Text × Value))) :
    (Transport.listing rows).Lists (fun _ => True) rows :=
  fun _ limit offset _ _ => ⟨[(.text "profileInfos",
    .list (((rows.drop offset).take limit).map .ofFields))], (), rfl, trivial, rfl⟩

/-! ### Pages as slices -/

namespace Page

/-- The page of a number: a slice of the rows. The last page may have fewer profiles than the
others, and a page behind it has none. -/
def pageAt (rows : List (List (Text × Value))) (size number : Nat) : Page where
  profiles := (rows.drop (number * size)).take size
  number := number
  size := size

section

variable {rows : List (List (Text × Value))} {size : Nat}

/-- A page says that there is a next one exactly when it lies before the last page. A page only
knows that it is full, so when the rows fill the pages up there is one page more, which is empty. -/
theorem hasNext_pageAt (hsize : 1 ≤ size) (number : Nat) :
    (pageAt rows size number).hasNext = true ↔ number < rows.length / size := by
  have hfull : (pageAt rows size number).hasNext = true ↔ (number + 1) * size ≤ rows.length := by
    rw [Page.hasNext, decide_eq_true_iff]
    show (size : Int) ≤ ((rows.drop (number * size)).take size).length ↔ _
    rw [List.length_take, List.length_drop, Nat.succ_mul]
    omega
  -- The full pages are counted by the quotient, so a page is full when its number is below it.
  rw [hfull, ← Nat.le_div_iff_mul_le hsize, Nat.succ_le_iff]

/-- The first pages make up the first rows. There may be fewer rows than pages can hold, in which
case these are all the rows. -/
theorem flatMap_pageAt (rows : List (List (Text × Value))) (size count : Nat) :
    ((List.range count).map (pageAt rows size)).flatMap Page.profiles
      = rows.take (count * size) := by
  induction count with
  | zero => simp
  | succ count ih =>
      rw [List.range_succ, List.map_append, List.flatMap_append, ih, Nat.succ_mul, List.take_add]
      simp [pageAt]

/-- The pages of the rows: the full ones and one more, which has what remains. The walk below takes
exactly these. -/
def pagesOf (rows : List (List (Text × Value))) (size : Nat) : List Page :=
  (List.range (rows.length / size + 1)).map (pageAt rows size)

/-- The pages of the rows are numbered: the one at a place is the slice of its number. -/
theorem getElem?_pagesOf {k : Nat} {page : Page} (h : (pagesOf rows size)[k]? = some page) :
    k < rows.length / size + 1 ∧ page = pageAt rows size k := by
  simp only [pagesOf, List.getElem?_map, Option.map_eq_some_iff] at h
  obtain ⟨number, hnumber, rfl⟩ := h
  obtain ⟨hk, rfl⟩ := List.getElem?_eq_some_iff.1 hnumber
  rw [List.length_range] at hk
  rw [List.getElem_range]
  exact ⟨hk, rfl⟩

/-- The pages before one of the pages make up the rows before it, so its place among the rows is
told by the pages that a caller has seen. -/
theorem flatMap_take_pagesOf {k : Nat} (hk : k < rows.length / size + 1) :
    ((pagesOf rows size).take k).flatMap Page.profiles = rows.take (k * size) := by
  rw [pagesOf, ← List.map_take, List.take_range, Nat.min_eq_left hk.le, flatMap_pageAt]

/-- The pages make up the rows: none is left out and none comes twice. -/
theorem flatMap_pagesOf (hsize : 1 ≤ size) :
    (pagesOf rows size).flatMap Page.profiles = rows := by
  rw [pagesOf, flatMap_pageAt]
  refine List.take_of_length_le ?_
  rw [Nat.mul_comm]
  exact (Nat.lt_mul_div_succ rows.length hsize).le

/-- A page with profiles gives their positions among the rows, counted from one. Without profiles
there is nothing to count, and the indices of such a page are not positions. -/
theorem positions_pageAt {k : Nat} (hne : (pageAt rows size k).profiles ≠ []) :
    rows = rows.take (k * size) ++ (pageAt rows size k).profiles
        ++ (rows.drop (k * size)).drop size ∧
      (pageAt rows size k).firstIndex = ((rows.take (k * size)).length : Int) + 1 ∧
      (pageAt rows size k).lastIndex
        = ((rows.take (k * size)).length : Int) + (pageAt rows size k).profiles.length := by
  have hstart : k * size < rows.length := by
    by_contra hge
    exact hne (by simp [pageAt, List.drop_eq_nil_of_le (Nat.not_lt.1 hge)])
  -- The page starts among the rows, so all rows before it are there to be counted.
  have hlength : ((rows.take (k * size)).length : Int) = k * size := by
    rw [List.length_take, Nat.min_eq_left hstart.le, Nat.cast_mul]
  refine ⟨?_, ?_, ?_⟩
  · rw [List.append_assoc]
    show rows = _ ++ ((rows.drop _).take size ++ _)
    rw [List.take_append_drop, List.take_append_drop]
  · rw [hlength]
    rfl
  · rw [hlength]
    rfl

/-- The page behind a page that lies before the last goes on with the next position. The page before
it is full, so its last index is what the next page starts from. -/
theorem lastIndex_pageAt {k : Nat} (hsize : 1 ≤ size) (hk : k < rows.length / size) :
    (pageAt rows size k).lastIndex + 1 = (pageAt rows size (k + 1)).firstIndex := by
  have hrows : (k + 1) * size ≤ rows.length := (Nat.le_div_iff_mul_le hsize).1 hk
  have hfull : (pageAt rows size k).profiles.length = size := by
    rw [Nat.succ_mul] at hrows
    show ((rows.drop (k * size)).take size).length = size
    rw [List.length_take, List.length_drop]
    omega
  rw [lastIndex, hfull]
  show ((k : Int) * size + size) + 1 = ((k + 1 : Nat) : Int) * size + 1
  push_cast
  ring

end

end Page

namespace Service

variable {σ : Type} {s : Service σ} {rows : List (List (Text × Value))} {size : Nat}

/-! ### One listing -/

/-- The number of a page counts only as far as it is not negative, since nothing else in a listing
reads it. -/
theorem search_congr (s : Service σ) (choice : Value) {number other : Value}
    (h : number.atLeastZero = other.atLeastZero) :
    s.search choice number = s.search choice other := by
  funext session
  rw [search, search, h]

/-- A page of rows under distinct names is made as it is: the rows are records already, and the
number and the size are whole. -/
theorem pageOf_rows (hsize : s.pageSize = .int size) {page : List (List (Text × Value))}
    (hpage : ∀ row ∈ page, (row.map (·.1)).Nodup) (number : Nat) :
    s.pageOf (.int number) (some (.list (page.map .ofFields)))
      = .ok { profiles := page, number, size } := by
  rw [pageOf, hsize]
  show Checked.asOutcome Page.recordName (Except.map _ (Checked.both
    ((Value.checkList (Value.checkMapping Value.checkAny) (.list (page.map .ofFields))).under
      (.name "profiles"))
    (.ok ((number : Int), (size : Int)) : Checked (Int × Int)))) = _
  rw [Value.checkList_ofFields hpage]
  rfl

/-- A listing over a transport that lists returns the slice of its page. The limit is the size of
the page, and the offset is the number of rows before it. -/
theorem search_of_lists {ready : σ → Prop} (hlists : s.transport.Lists ready rows)
    (hrows : ∀ row ∈ rows, (row.map (·.1)).Nodup) (hsize : s.pageSize = .int size) {choice : Value}
    (hfilters : (Selection.coerce choice).hasFilters = true) (number : Nat) {session : Session σ}
    (hready : ready session.channel) :
    ∃ after, s.search choice (.int number) session = (.ok (Page.pageAt rows size number), after) ∧
      ready after.channel := by
  have hoffset : Value.times (.int number) s.pageSize = .ok (.int (number * size : Nat)) := by
    rw [hsize]
    rfl
  -- The reply of the transport, and the run of the document that gives it to the listing.
  obtain ⟨entries, after, hexecute, hafter, hprofiles⟩ :=
    hlists (Selection.coerce choice).toExpr.toWhere size (number * size) session.channel hready
  have hslice : ∀ row ∈ (Page.pageAt rows size number).profiles, (row.map (·.1)).Nodup :=
    fun row hrow => hrows row (List.mem_of_mem_drop (List.mem_of_mem_take hrow))
  have hpage : Value.atLeastZero (.int number) = .ok (.int number) := by
    rw [Value.atLeastZero_int, max_eq_left (Int.natCast_nonneg number)]
  rw [s.search_of_hasFilters hfilters hpage hoffset, hsize]
  refine ⟨⟨after, session.warnings ++ []⟩, ?_, hafter⟩
  have hrun : s.run (.text Document.profileSearch) (.ofFields
      [("where", (Selection.coerce choice).toExpr.toWhere), ("limit", .int size),
        ("offset", .int (number * size : Nat))]) session
      = (.ok (.map entries), ⟨after, session.warnings ++ []⟩) := by
    rw [run, hexecute]
  rw [Run.andThen_apply hrun]
  -- An empty slice counts as false, and stands for the empty list all the same.
  have hdata : profilesOf (.map entries)
      = .ok (.list ((Page.pageAt rows size number).profiles.map .ofFields)) := by
    rw [profilesOf, hprofiles]
    show Except.ok (if (Value.list _).isTruthy then Value.list _ else .list []) = _
    rw [show (rows.drop (number * size)).take size
      = (Page.pageAt rows size number).profiles from rfl]
    cases (Page.pageAt rows size number).profiles <;> rfl
  show ((profilesOf (.map entries) >>= fun data => s.pageOf (.int number) (some data)), _) = _
  rw [hdata]
  exact congrArg (·, _) (pageOf_rows hsize hslice number)

/-! ### The walk -/

/-- A walk through the pages of a choice, from a page on: it goes on to the next page as long as a
page says that there may be one. What a page says decides alone, so the walk is what a caller does
who knows nothing of the rows. -/
inductive Walks (s : Service σ) (choice : Value) : Nat → Session σ → List Page → Session σ → Prop
  | last {number : Nat} {session after : Session σ} {page : Page}
      (hsearch : s.search choice (.int number) session = (.ok page, after))
      (hlast : page.hasNext = false) : Walks s choice number session [page] after
  | next {number : Nat} {session between after : Session σ} {page : Page} {pages : List Page}
      (hsearch : s.search choice (.int number) session = (.ok page, between))
      (hnext : page.hasNext = true) (hrest : Walks s choice (number + 1) between pages after) :
      Walks s choice number session (page :: pages) after

/-- From one page and one session there is at most one walk. A listing is a function of the session,
so both walks see the same page, and it tells both of them whether to go on. -/
theorem Walks.unique {choice : Value} {number : Nat} {session after after' : Session σ}
    {pages pages' : List Page} (h : Walks s choice number session pages after)
    (h' : Walks s choice number session pages' after') : pages' = pages ∧ after' = after := by
  -- Along the first walk. The two constructors exclude each other, since the page has a next one or
  -- has none.
  induction h generalizing pages' after' with
  | last hsearch hlast =>
      cases h' with
      | last hsearch' _ =>
          rw [hsearch] at hsearch'
          cases hsearch'
          exact ⟨rfl, rfl⟩
      | next hsearch' hnext' _ =>
          rw [hsearch] at hsearch'
          cases hsearch'
          rw [hlast] at hnext'
          cases hnext'
  | next hsearch hnext _ ih =>
      cases h' with
      | last hsearch' hlast' =>
          rw [hsearch] at hsearch'
          cases hsearch'
          rw [hnext] at hlast'
          cases hlast'
      | next hsearch' _ hrest' =>
          rw [hsearch] at hsearch'
          cases hsearch'
          obtain ⟨rfl, rfl⟩ := ih hrest'
          exact ⟨rfl, rfl⟩

/-- The walk over a transport that lists takes the pages that remain, up to the first that is not
full. The induction is on their number. -/
theorem walks_of_lists {ready : σ → Prop} (hlists : s.transport.Lists ready rows)
    (hrows : ∀ row ∈ rows, (row.map (·.1)).Nodup) (hpage : 1 ≤ size)
    (hsize : s.pageSize = .int size) {choice : Value}
    (hfilters : (Selection.coerce choice).hasFilters = true) (remaining number : Nat)
    (hremaining : number + remaining = rows.length / size) {session : Session σ}
    (hready : ready session.channel) :
    ∃ after, Walks s choice number session
      ((List.range' number (remaining + 1)).map (Page.pageAt rows size)) after := by
  obtain ⟨between, hsearch, hbetween⟩ :=
    search_of_lists hlists hrows hsize hfilters number hready
  -- The session of each listing is another one, so the induction keeps the listing that it starts
  -- with.
  induction remaining generalizing number session between with
  | zero =>
      have hlast : (Page.pageAt rows size number).hasNext = false := by
        rw [← Bool.not_eq_true, Page.hasNext_pageAt hpage]
        omega
      exact ⟨between, .last hsearch hlast⟩
  | succ remaining ih =>
      have hnext : (Page.pageAt rows size number).hasNext = true := by
        rw [Page.hasNext_pageAt hpage]
        omega
      obtain ⟨later, hlater, hready'⟩ :=
        search_of_lists hlists hrows hsize hfilters (number + 1) hbetween
      obtain ⟨after, hrest⟩ := ih (number + 1) (by omega) hbetween later hlater hready'
      exact ⟨after, .next hsearch hnext hrest⟩

/-- **A walk through the pages visits every profile once.** Take a page size of at least one, a
choice with filters, and a transport that lists rows. From page zero on there is exactly one walk.
It has a page for each full page of rows and one more, and its pages make up the rows, in their
order. A page with profiles gives their positions among the rows, counted from one, and the page
behind it goes on with the next position. A page with a negative number is page zero. -/
theorem walk_visits (transport : Transport σ) (names : FacetNames) (hpage : 1 ≤ size)
    {choice : Value} (hfilters : (Selection.coerce choice).hasFilters = true)
    (hrows : ∀ row ∈ rows, (row.map (·.1)).Nodup) {ready : σ → Prop}
    (hlists : transport.Lists ready rows) {session : Session σ} (hready : ready session.channel) :
    ∃ s pages after, make transport (.int size) names = .ok s ∧
      Walks s choice 0 session pages after ∧
      (∀ pages' after', Walks s choice 0 session pages' after' → pages' = pages ∧ after' = after) ∧
      pages.length = rows.length / size + 1 ∧
      pages.flatMap Page.profiles = rows ∧
      (∀ k page, pages[k]? = some page → page.profiles ≠ [] →
        ∃ before behind, before = (pages.take k).flatMap Page.profiles ∧
          rows = before ++ page.profiles ++ behind ∧
          page.firstIndex = (before.length : Int) + 1 ∧
          page.lastIndex = (before.length : Int) + page.profiles.length) ∧
      (∀ k page next, pages[k]? = some page → pages[k + 1]? = some next →
        page.lastIndex + 1 = next.firstIndex) ∧
      ∀ number : Int, number < 0 → s.search choice (.int number) = s.search choice (.int 0) := by
  -- A size of at least one makes a service.
  have hmake : make transport (.int size) names = .ok ⟨transport, .int size, names⟩ := by
    have hbelow : Value.isBelowOne (.int size) = .ok false := by
      show Except.ok (decide ((size : Int) * (1 : Nat) < 1 * (1 : Nat))) = _
      exact congrArg Except.ok (decide_eq_false (by omega))
    rw [make, hbelow]
    rfl
  let s : Service σ := ⟨transport, .int size, names⟩
  obtain ⟨after, hwalk⟩ := walks_of_lists (s := s) hlists hrows hpage rfl hfilters
    (rows.length / size) 0 (Nat.zero_add _) hready
  -- From page zero on, the pages that the walk takes are all pages of the rows.
  rw [← List.range_eq_range', ← Page.pagesOf] at hwalk
  refine ⟨s, Page.pagesOf rows size, after, hmake, hwalk, fun _ _ => hwalk.unique,
    ?_, ?_, ?_, ?_, ?_⟩
  · simp [Page.pagesOf]
  · exact Page.flatMap_pagesOf hpage
  · intro k page hk hne
    obtain ⟨hlt, rfl⟩ := Page.getElem?_pagesOf hk
    obtain ⟨hsplit, hfirst, hlast⟩ := Page.positions_pageAt hne
    exact ⟨_, _, (Page.flatMap_take_pagesOf hlt).symm, hsplit, hfirst, hlast⟩
  · intro k page next hk hnext
    obtain ⟨-, rfl⟩ := Page.getElem?_pagesOf hk
    obtain ⟨hlt, rfl⟩ := Page.getElem?_pagesOf hnext
    exact Page.lastIndex_pageAt hpage (by omega)
  · intro number hnumber
    refine s.search_congr choice ?_
    rw [Value.atLeastZero_int, Value.atLeastZero_int, max_eq_right hnumber.le, max_self]

/-- Three profiles that tell their identifiers, one more than a page of two has room for. -/
def threeRows : List (List (Text × Value)) :=
  [[("id", .int 1)], [("id", .int 2)], [("id", .int 3)]]

/-- Three profiles on pages of two take two pages, and page minus seven is page zero. -/
theorem walk_visits_three_rows :
    ∃ s pages after,
      make (.listing threeRows) (.int 2) {} = .ok s ∧
      Walks s (.ofFields [("types", .list [.text "a"])]) 0 { channel := () } pages after ∧
      pages.length = 2 ∧
      pages.flatMap Page.profiles = threeRows ∧
      s.search (.ofFields [("types", .list [.text "a"])]) (.int (-7))
        = s.search (.ofFields [("types", .list [.text "a"])]) (.int 0) := by
  obtain ⟨s, pages, after, hmake, hwalk, -, hlength, hrows, -, -, hnegative⟩ :=
    @walk_visits Unit threeRows 2 (.listing _) {}
      (by decide) (.ofFields [("types", .list [.text "a"])]) (by decide) (by decide) _
      (Transport.lists_listing _) { channel := () } trivial
  exact ⟨s, pages, after, hmake, hwalk, hlength, hrows, hnegative (-7) (by decide)⟩

end Service

end FacetSearch
