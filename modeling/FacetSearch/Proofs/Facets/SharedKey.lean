import FacetSearch.Proofs.CacheKey
import FacetSearch.Proofs.Facets.Compiles
import FacetSearch.Proofs.Facets.Document

/-!
# `FacetSearch.Proofs.Facets.SharedKey`: what the key of a facet query tells

A document is cached under the name of its operation and its variables. A facet query writes its
filters into its text and has no variables, so its key tells its name and nothing of what it asks
for. The main fact `forQuery_eq_iff` says so. All facet queries under the standard names have one
key. For any names, and for any variables that a document of JSON spells, two facet queries have one
key exactly when their operations have the same name and their variables are the same up to the
order of entries. Selection and catalog do not enter.

`forQuery_shared_key` has two queries with one key and different texts.
-/

set_option autoImplicit false

namespace FacetSearch.FacetQuery

open CacheKey
open Grammar
open Value (AreJson)

/-- A query comes of values that are taken for a selection and a catalog. -/
def ComesOf (names : FacetNames) (choice payload : Value) (q : FacetQuery) : Prop :=
  ∃ c, Catalog.coerce payload = .ok c ∧ compile names (Selection.coerce choice) c = .ok q

variable {names : FacetNames} {choice payload : Value} {q : FacetQuery}

/-- The key of a query with variables is that of its operation name with the variables. Nothing else
of the text of the query enters the key. -/
theorem forQuery_of_comesOf (hname : isName names.operationName = true)
    (h : ComesOf names choice payload q) (bindings : Option (List (Text × Value))) :
    forQuery (.text q.text) (.ofBindings bindings)
      = (Query.graphql names.operationName bindings).key := by
  obtain ⟨c, -, hcompile⟩ := h
  obtain ⟨-, rfl⟩ := (compile_eq_ok_iff names _ c q).mp hcompile
  -- The heading has the name, so it is found before anything that the filters hold.
  have hfound : OperationName.ofValue? (.text (document names (fields (Selection.coerce choice)
      c.facetOptions))) = .ok (some names.operationName) :=
    congrArg Except.ok (ofText?_document names hname _)
  rw [forQuery]
  show (OperationName.ofValue? (.text (document names _)) >>= fun name =>
    CacheKey.graphql (.text (name.getD "anonymous")) (.ofBindings bindings)) = _
  rw [hfound]
  rfl

/-- **What the key of a facet query tells.** Every facet query under the standard names has the same
key, whatever was given for the selection and the catalog. In general the keys of two facet queries
with variables are equal exactly when the names of the operations are equal and the variables are
the same up to the order of entries. The variables are objects of JSON, with texts such as a
document of JSON can spell. -/
theorem forQuery_eq_iff :
    (∀ {choice payload : Value} {q : FacetQuery}, ComesOf {} choice payload q →
      forQuery (.text q.text) .null
        = .ok [.text "grid", .text "graphql", .text "GetProfileFacetCounts", .null]) ∧
    ∀ {names others : FacetNames}, isName names.operationName = true →
      isName others.operationName = true →
      ∀ {choice payload choice' payload' : Value} {q r : FacetQuery},
      ComesOf names choice payload q → ComesOf others choice' payload' r →
      ∀ {bindings bindings' : Option (List (Text × Value))},
      AreJson Json.IsSpelled bindings → AreJson Json.IsSpelled bindings' →
      ∃ k l, forQuery (.text q.text) (.ofBindings bindings) = .ok k ∧
        forQuery (.text r.text) (.ofBindings bindings') = .ok l ∧
        (k = l ↔ names.operationName = others.operationName ∧
          Json.sameUpToOrder (.ofBindings bindings) (.ofBindings bindings') = true) := by
  refine ⟨fun {choice payload q} hq => ?_, fun {names others} hname hother => ?_⟩
  · exact forQuery_of_comesOf (by decide) hq none
  · intro choice payload choice' payload' q r hq hr bindings bindings' hbindings hbindings'
    -- The variables as those of a cached query, to which the comparison of keys applies.
    have hfirst : AreJson Json.IsSpelled (Query.graphql names.operationName bindings).bindings? :=
      hbindings
    have hsecond :
        AreJson Json.IsSpelled (Query.graphql others.operationName bindings').bindings? :=
      hbindings'
    exact ⟨_, _, (forQuery_of_comesOf hname hq bindings).trans (Query.key_eq hfirst),
      (forQuery_of_comesOf hother hr bindings').trans (Query.key_eq hsecond),
      Query.parts_eq_iff_of_isSpelled hfirst hsecond⟩

/-- The main fact at a query of everything and a query of what is named like `a`. Without variables
they have one key. With a variable for the one of them they have two. -/
theorem forQuery_eq_iff_search :
    ∃ q r, ComesOf {} .null .null q ∧
      ComesOf {} (.map [(.text "search", .text "a")]) (.map [(.text "tags", .list [])]) r ∧
      forQuery (.text q.text) .null = forQuery (.text r.text) .null ∧
      forQuery (.text q.text) .null
        ≠ forQuery (.text r.text) (.ofBindings (some [("search", .text "a")])) := by
  have hq : ComesOf {} .null .null _ := ⟨_, rfl, rfl⟩
  have hr : ComesOf {} (.map [(.text "search", .text "a")]) (.map [(.text "tags", .list [])]) _ :=
    ⟨_, rfl, rfl⟩
  refine ⟨_, _, hq, hr, (forQuery_eq_iff.1 hq).trans (forQuery_eq_iff.1 hr).symm, fun heq => ?_⟩
  have hnone : AreJson Json.IsSpelled none := nofun
  have hspelled {t : Text} (h : t.IsUnpaired) : Json.IsSpelled t := Json.isSpelled_iff.mpr h
  have hbindings : AreJson Json.IsSpelled (some [("search", .text "a")]) := by
    rintro _ ⟨⟩
    exact .object (by decide) (List.forall_mem_singleton.mpr (hspelled (by decide)))
      (List.forall_mem_singleton.mpr (.text (hspelled (by decide))))
  -- Both keys exist, and they are told apart by the variables.
  obtain ⟨k, l, hk, hl, hiff⟩ :=
    forQuery_eq_iff.2 (by decide) (by decide) hq hr hnone hbindings
  rw [hl, show forQuery _ .null = .ok k from hk] at heq
  exact absurd (hiff.mp (Except.ok.inj heq)).2 (by decide)

/-- Two facet queries with one key ask for different things: one for everything, the other for what
is named like `a`. The search stands in the text, which the key does not see. -/
theorem forQuery_shared_key :
    ∃ q r, ComesOf {} .null .null q ∧ ComesOf {} (.map [(.text "search", .text "a")]) .null r ∧
      q.text ≠ r.text ∧ forQuery (.text q.text) .null = forQuery (.text r.text) .null := by
  have hq : ComesOf {} .null .null _ := ⟨_, rfl, rfl⟩
  have hr : ComesOf {} (.map [(.text "search", .text "a")]) .null _ := ⟨_, rfl, rfl⟩
  refine ⟨_, _, hq, hr, fun heq => ?_, ?_⟩
  · exact absurd heq (by decide +kernel)
  · exact (forQuery_of_comesOf (by decide) hq none).trans
      (forQuery_of_comesOf (by decide) hr none).symm

end FacetSearch.FacetQuery
