import FacetSearch.Failure

/-!
# `FacetSearch.Transport`: what runs a document

A transport takes a document and its variables, as values, and answers with data or a failure. It
has a state of its own: what it has sent, and what it still has to answer with. Running a document
changes the state also when it fails.
-/

set_option autoImplicit false

namespace FacetSearch

/-- A way to run documents over a state. The document and the variables are values of any kind, so
what makes no request is the transport's to refuse. -/
structure Transport (σ : Type) where
  execute : (document bindings : Value) → σ → Except Failure Value × σ

end FacetSearch
