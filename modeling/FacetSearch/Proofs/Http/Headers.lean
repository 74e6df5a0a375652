import FacetSearch.Config.Check
import FacetSearch.Http
import FacetSearch.Proofs.Checked
import FacetSearch.Proofs.Entries
import Mathlib.Data.List.Nodup

/-!
# `FacetSearch.Proofs.Http.Headers`: the key beside the headers of the user

A request carries the headers that the user gives, and the API key under `x-api-key`. Its headers
are exactly those of the user, and the one of the key unless a header of the user has its name
(`mem_requestHeaders_iff`). No name stands there twice (`nodup_requestHeaders`).

A header of the user is meant to take the place of the key. Headers are put together by their exact
names, but a server reads names without regard to the case of ASCII letters (`SameName`). So the
user wins (`UserWins`) with one exception: the user gives the name of the key in other spellings
only, and there is a key to send (`IsRespelled`). Then both go out, and a server reads both in one
value (`requestHeaders_respelled`). `userWins_iff` says that there is no other exception. Where the
user wins, a server reads each header of the user with its own value (`headerValue_ownHeaders`).
-/

set_option autoImplicit false

namespace FacetSearch

/-- No key stands twice in a mapping that passes its check. The check puts the entries into a
mapping one by one, so a later entry takes the place of an earlier one with its key. -/
theorem Value.nodup_of_checkMapping {α : Type} {check : Value → Checked α} {v : Value}
    {entries : List (Text × α)} (h : checkMapping check v = .ok entries) :
    (entries.map (·.1)).Nodup := by
  cases v with
  | map given =>
      obtain ⟨checked, -, rfl⟩ := Checked.map_eq_ok_iff.mp h
      exact Entries.nodup_putAll checked
  | _ => cases h

namespace Config

/-- The header of the API key. An empty key counts as none. -/
def keyHeader? (c : Config) : Option (Text × Text) :=
  match c.apiKey with
  | some key => if key.isEmpty then none else some ("x-api-key", key)
  | none => none

/-- Two names of headers are one to a server: they differ in the case of ASCII letters at most. -/
def SameName (a b : Text) : Prop := Http.lowerName a = Http.lowerName b

instance : DecidableRel SameName := fun a b => decEq (Http.lowerName a) (Http.lowerName b)

/-! ### The headers of a request -/

/-- The headers of the user are put after the one of the key, and so in its place where the exact
names agree. -/
theorem requestHeaders_eq (c : Config) :
    c.requestHeaders = Entries.putAll [] (c.keyHeader?.toList ++ c.headers) := by
  unfold requestHeaders keyHeader?
  cases c.apiKey with
  | none => rfl
  | some key =>
      dsimp only
      split
      · rfl
      · rfl

/-- The header of the key has the fixed name `x-api-key`, spelled in lower case. -/
theorem fst_of_keyHeader? {c : Config} {header : Text × Text}
    (h : c.keyHeader? = some header) : header.1 = "x-api-key" := by
  unfold keyHeader? at h
  split at h
  · split at h
    · cases h
    · rw [← Option.some.inj h]
  · cases h

/-- No name stands twice among the headers of a request, in the exact spelling. Names that differ in
case alone can both be there. -/
theorem nodup_requestHeaders (c : Config) : (c.requestHeaders.map (·.1)).Nodup := by
  rw [requestHeaders_eq]
  exact Entries.nodup_putAll _

/-- No name stands twice among the headers of a configuration that is accepted. They are those that
were given, after their check, or there are none by default. -/
theorem nodup_headers_of_ofGiven {given : Given} {c : Config} (h : ofGiven given = .ok c) :
    (c.headers.map (·.1)).Nodup := by
  rw [ofGiven, Checked.asOutcome_eq_ok_iff, check, Checked.map_eq_ok_iff] at h
  obtain ⟨⟨endpoint, apiKey, headers, timeout⟩, hfields, rfl⟩ := h
  -- The checks of the fields are nested in pairs; the headers come third.
  obtain ⟨-, hfields⟩ := Checked.both_eq_ok_iff.mp hfields
  obtain ⟨-, hfields⟩ := Checked.both_eq_ok_iff.mp hfields
  obtain ⟨hheaders, -⟩ := Checked.both_eq_ok_iff.mp hfields
  show (headers.map (·.1)).Nodup
  rw [Given.withDefault] at hheaders
  split at hheaders
  · exact Value.nodup_of_checkMapping (Checked.under_eq_ok_iff.mp hheaders)
  · cases hheaders
    exact List.nodup_nil

section

variable {c : Config} (hnames : (c.headers.map (·.1)).Nodup)

include hnames

/-- Every header of the user is among those of a request, with its own value. The key is put first,
so it cannot take the place of a header of the user. -/
theorem mem_requestHeaders_of_mem_headers {header : Text × Text} (h : header ∈ c.headers) :
    header ∈ c.requestHeaders := by
  -- Its name is no other's, so nothing that is put later takes its place.
  obtain ⟨before, after, hsplit⟩ := List.append_of_mem h
  have hlater : ∀ later ∈ after, later.1 ≠ header.1 := by
    rw [hsplit, List.map_append, List.map_cons, List.nodup_append] at hnames
    intro later hlater heq
    exact (List.nodup_cons.mp hnames.2.1).1 (heq ▸ List.mem_map_of_mem hlater)
  rw [requestHeaders_eq, hsplit, ← List.append_assoc]
  exact Entries.mem_putAll_of_last hlater

/-- The headers of a request are those of the user, and that of the key unless a header of the user
has its exact name. -/
theorem mem_requestHeaders_iff (header : Text × Text) :
    header ∈ c.requestHeaders ↔ header ∈ c.headers ∨
      c.keyHeader? = some header ∧ Text.ofString "x-api-key" ∉ c.headers.map (·.1) := by
  constructor
  · intro h
    have hput := requestHeaders_eq c ▸ h
    rcases List.mem_append.mp (Entries.mem_putAll hput) with hkey | huser
    · by_cases hname : Text.ofString "x-api-key" ∈ c.headers.map (·.1)
      · -- The header of the user stands there under this name, and no name stands there twice.
        obtain ⟨own, hown, hownName⟩ := List.mem_map.mp hname
        have hsame : own = header :=
          List.inj_on_of_nodup_map c.nodup_requestHeaders
            (mem_requestHeaders_of_mem_headers hnames hown) h
            (hownName.trans (fst_of_keyHeader? (Option.mem_toList.mp hkey)).symm)
        exact .inl (hsame ▸ hown)
      · exact .inr ⟨Option.mem_toList.mp hkey, hname⟩
    · exact .inl huser
  · rintro (huser | ⟨hkey, hname⟩)
    · exact mem_requestHeaders_of_mem_headers hnames huser
    -- The header of the key is put in first, and no header of the user takes its place.
    · rw [requestHeaders_eq, hkey, Option.toList_some]
      refine @Entries.mem_putAll_of_last _ [] c.headers header fun later hlater heq => hname ?_
      rw [← fst_of_keyHeader? hkey, ← heq]
      exact List.mem_map_of_mem hlater

end

/-! ### Who wins -/

/-- The user wins: the headers that the user gives go out, and nothing that a server reads under
their names goes out beside them. -/
structure UserWins (c : Config) : Prop where
  /-- Every header of the user goes out with its own value. -/
  kept : ∀ header ∈ c.headers, header ∈ c.requestHeaders
  /-- Two names that are one to a server go out only where the user gives both. -/
  apart : c.requestHeaders.Pairwise fun header other =>
    SameName header.1 other.1 → header ∈ c.headers ∧ other ∈ c.headers
  /-- The key goes out only where no header of the user has its name in any spelling. -/
  key : ∀ header ∈ c.requestHeaders, header ∉ c.headers →
    c.keyHeader? = some header ∧ ∀ other ∈ c.headers, ¬ SameName other.1 "x-api-key"

/-- There is a key to send, and the user gives its name, but only in other spellings. -/
structure IsRespelled (c : Config) : Prop where
  sent : c.keyHeader? ≠ none
  named : ∃ header ∈ c.headers, SameName header.1 "x-api-key"
  otherwise : Text.ofString "x-api-key" ∉ c.headers.map (·.1)

/-- The user does not win where the name of the key is respelled: the key goes out beside the header
that has its name, and a server reads both. -/
theorem not_userWins_of_isRespelled {c : Config} (hnames : (c.headers.map (·.1)).Nodup)
    (h : c.IsRespelled) : ¬ c.UserWins := by
  intro hwins
  obtain ⟨hsent, ⟨own, hown, hsame⟩, hother⟩ := h
  obtain ⟨header, hkey⟩ := Option.ne_none_iff_exists'.mp hsent
  have hgoes : header ∈ c.requestHeaders := (mem_requestHeaders_iff hnames header).mpr
    (.inr ⟨hkey, hother⟩)
  have hforeign : header ∉ c.headers := fun hmem =>
    hother (fst_of_keyHeader? hkey ▸ List.mem_map_of_mem hmem)
  exact (hwins.key header hgoes hforeign).2 own hown hsame

/-- The user wins where the name of the key is not respelled. Either there is no key to send, or the
user gives its exact name, or no header of the user has its name at all. -/
theorem userWins_of_not_isRespelled {c : Config} (hnames : (c.headers.map (·.1)).Nodup)
    (h : ¬ c.IsRespelled) : c.UserWins := by
  -- A header that is not the user's is that of the key, and no header of the user has its name.
  have hforeign : ∀ header ∈ c.requestHeaders, header ∉ c.headers →
      c.keyHeader? = some header ∧ ∀ other ∈ c.headers, ¬ SameName other.1 "x-api-key" := by
    intro header hgoes hnot
    obtain ⟨hkey, hother⟩ := ((mem_requestHeaders_iff hnames header).mp hgoes).resolve_left hnot
    refine ⟨hkey, fun other hmem hsame => h ⟨?_, ⟨other, hmem, hsame⟩, hother⟩⟩
    rw [hkey]
    exact Option.some_ne_none header
  -- So a header that is not the user's shares its name with no other.
  have hsole : ∀ header ∈ c.requestHeaders, header ∉ c.headers → ∀ other ∈ c.requestHeaders,
      SameName other.1 header.1 → other = header := by
    intro header hgoes hnot other hother hsame
    obtain ⟨hkey, hnone⟩ := hforeign header hgoes hnot
    by_cases hown : other ∈ c.headers
    · rw [fst_of_keyHeader? hkey] at hsame
      exact absurd hsame (hnone other hown)
    · exact Option.some.inj ((hforeign other hother hown).1.symm.trans hkey)
  refine ⟨fun _ => mem_requestHeaders_of_mem_headers hnames, ?_, hforeign⟩
  refine (List.Nodup.of_map _ c.nodup_requestHeaders).pairwise_of_forall_ne ?_
  intro header hgoes other hother hne hsame
  constructor
  · by_contra hnot
    exact hne (hsole header hgoes hnot other hother hsame.symm).symm
  · by_contra hnot
    exact hne (hsole other hother hnot header hgoes hsame)

/-- Where the user wins, a server reads a header of the user with its own value, when the user gives
no other of its name. -/
theorem headerValue_ownHeaders {c : Config} (hwins : c.UserWins)
    {sent : List (Text × Text)} (hsent : Http.ownHeaders? c = some sent)
    {header : Text × Text} (hmem : header ∈ c.headers)
    (hsole : ∀ other ∈ c.headers, SameName other.1 header.1 → other = header) :
    Http.headerValue (Http.lowerName header.1) sent = header.2 := by
  have hlower : sent = c.requestHeaders.map fun other => (Http.lowerName other.1, other.2) := by
    rw [Http.ownHeaders?] at hsent
    split at hsent
    · exact (Option.some.inj hsent).symm
    · cases hsent
  -- Only this header has its name: any other is either the user's, or that of the key.
  have hname : ∀ other ∈ c.requestHeaders,
      (Http.lowerName other.1 == Http.lowerName header.1) = (other == header) := by
    intro other hother
    by_cases hown : other ∈ c.headers
    · rw [Bool.eq_iff_iff, beq_iff_eq, beq_iff_eq]
      exact ⟨hsole other hown, fun h => h ▸ rfl⟩
    · obtain ⟨hkey, hnone⟩ := hwins.key other hother hown
      have hne : other ≠ header := fun heq => hown (heq.symm ▸ hmem)
      rw [beq_eq_false_iff_ne.mpr hne, beq_eq_false_iff_ne]
      intro hsame
      rw [fst_of_keyHeader? hkey] at hsame
      exact hnone header hmem hsame.symm
  -- The header stands once among those sent, so the values under its name are this one.
  have honce : c.requestHeaders.count header = 1 :=
    List.count_eq_one_of_mem (List.Nodup.of_map _ c.nodup_requestHeaders) (hwins.kept header hmem)
  have hfilter : c.requestHeaders.filter
      (fun other => Http.lowerName other.1 == Http.lowerName header.1) = [header] := by
    rw [List.filter_congr hname, List.filter_beq, honce, List.replicate_one]
  rw [hlower, Http.headerValue, List.filter_map, List.map_map]
  show joinedText ", " ((c.requestHeaders.filter
    fun other => Http.lowerName other.1 == Http.lowerName header.1).map Prod.snd) = header.2
  rw [hfilter]
  rfl

/-- **The headers of the user win, unless they respell the name of the key.** For every
configuration whose headers stand under distinct names, as those of an accepted one do:

* Every header of the user goes out with its own value, whatever the key is.
* The user wins exactly when the name of the key is not respelled. Then names that are one to a
  server go out only where the user gives both, and the key goes out only where no header of the
  user has its name in any spelling. -/
theorem userWins_iff {c : Config} (hnames : (c.headers.map (·.1)).Nodup) :
    (∀ header ∈ c.headers, header ∈ c.requestHeaders) ∧ (c.UserWins ↔ ¬ c.IsRespelled) :=
  ⟨fun _ => mem_requestHeaders_of_mem_headers hnames,
    fun hwins h => not_userWins_of_isRespelled hnames h hwins, userWins_of_not_isRespelled hnames⟩

/-- The user gives the name of the key as it is, and in another spelling too. Both headers of the
user go out, and the key does not. -/
theorem userWins_two_spellings :
    let headers : List (Text × Text) :=
      [("x-trace", "1"), ("x-api-key", "o"), ("X-Api-Key", "p")]
    let given : Given := [(.text "endpoint", .text "https://h.example/x"),
      (.text "api_key", .text "k"),
      (.text "headers", .map (headers.map fun header => (.text header.1, .text header.2)))]
    let c : Config := { endpoint := "https://h.example/x", apiKey := some "k", headers }
    ofGiven given = .ok c ∧ ¬ c.IsRespelled ∧ c.UserWins ∧
      (("x-api-key", "k") : Text × Text) ∉ c.requestHeaders := by
  intro headers given c
  have haccepted : ofGiven given = .ok c := rfl
  -- The exact spelling is among the names, so the other one does not make the key come in.
  have hplain : ¬ c.IsRespelled := fun h => h.otherwise (by decide)
  exact ⟨haccepted, hplain,
    (userWins_iff (nodup_headers_of_ofGiven haccepted)).2.mpr hplain, by decide⟩

/-- The user gives the name of the key in another spelling. The key goes out beside the header of
the user, and a server reads both values under the one name. -/
theorem requestHeaders_respelled :
    let c : Config :=
      { endpoint := "https://h.example/x", apiKey := some "k", headers := [("X-API-Key", "o")] }
    let sent : List (Text × Text) := [("x-api-key", "k"), ("X-API-Key", "o")]
    c.requestHeaders = sent ∧ ¬ c.UserWins ∧
      (Http.ownHeaders? c).map (Http.headerValue "x-api-key") = some (Text.ofString "k, o") := by
  intro c sent
  refine ⟨rfl, fun hwins => ?_, rfl⟩
  have hforeign : (("x-api-key", "k") : Text × Text) ∉ c.headers := by decide
  have hsame : SameName "X-API-Key" "x-api-key" := by decide
  exact (hwins.key _ (List.mem_cons_self : _ ∈ sent) hforeign).2 ("X-API-Key", "o")
    List.mem_cons_self hsame

end Config

end FacetSearch
