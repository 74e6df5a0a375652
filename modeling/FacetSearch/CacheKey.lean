import FacetSearch.Json.Canonical
import FacetSearch.OperationName

/-!
# `FacetSearch.CacheKey`: keys of cached queries

A cache key is a list that starts with the name of the store. Variables enter a key as their
canonical JSON text, so variables that differ in the order of entries alone give one key; missing
variables enter it as null.
-/

set_option autoImplicit false

namespace FacetSearch.CacheKey

/-- The key that all others extend, so that everything of the library can be dropped from a cache at
once. -/
def root : List Value := [.text "grid"]

/-- The canonical text of variables, with entries in order. Variables that are missing stay null,
which is no text. -/
def canonical (bindings : Value) : Except Failure Value :=
  match bindings with
  | .null => .ok .null
  | other => (Json.canonical other).map fun text => .text (.ofList text)

/-- The key of a query by the name of its operation. The document itself is no part of the key. -/
def graphql (name bindings : Value) : Except Failure (List Value) := do
  return root ++ [.text "graphql", name, ← canonical bindings]

/-- The key of all companies, which that of each company extends. -/
def companies : List Value := root ++ [.text "company"]

/-- The key of one company. -/
def company (id : Value) : List Value := companies ++ [id]

/-- The key of all searches, which that of each search extends. -/
def searches : List Value := root ++ [.text "search"]

/-- The key of one search. -/
def search (query bindings : Value) : Except Failure (List Value) := do
  return searches ++ [query, ← canonical bindings]

/-- The key of a document, by the name of its operation. Documents without a name share one, and so
do documents that differ in anything but their name. -/
def forQuery (document bindings : Value) : Except Failure (List Value) := do
  let name ← OperationName.ofValue? document
  graphql (.text (name.getD "anonymous")) bindings

/-- The kinds of keys, by the names that a caller has for them. -/
def kinds : List String :=
  ["all", "graphql", "companies", "company", "searches", "search", "for_query"]

/-- The key that a kind of key and its arguments describe. Variables may be left out. A kind with
other arguments is refused in another way than one that is unknown. -/
def ofCall (kind : String) (arguments : List Value) : Except Failure (List Value) :=
  match kind, arguments with
  | "all", [] => .ok root
  | "graphql", [name] => graphql name .null
  | "graphql", [name, bindings] => graphql name bindings
  | "companies", [] => .ok companies
  | "company", [id] => .ok (company id)
  | "searches", [] => .ok searches
  | "search", [query] => search query .null
  | "search", [query, bindings] => search query bindings
  | "for_query", [document] => forQuery document .null
  | "for_query", [document, bindings] => forQuery document bindings
  | _, _ => .error (if kinds.contains kind then .unsupported else .noMember)

end FacetSearch.CacheKey
