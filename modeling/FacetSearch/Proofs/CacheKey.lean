import FacetSearch.CacheKey
import FacetSearch.Proofs.Json.Ordered
import FacetSearch.Proofs.Json.Spelled
import FacetSearch.Proofs.Request

/-!
# `FacetSearch.Proofs.CacheKey`: cache keys identify their queries

A query that is cached is one of six kinds, with texts that tell it and, for two kinds, variables
that are missing or a JSON object. The main fact `Query.key_eq_iff` says that every such query has a
key, and when two keys are equal: when the queries are of the same kind, with equal texts, and with
variables that are the same up to the order of the entries of objects. So no query finds what was
cached for another, and the order in which variables were given makes no difference.

Variables enter a key as their JSON text in order, in ASCII. This text spells a character past the
basic plane by a high and a low surrogate, so it is also the text of variables that hold these two
side by side. No document of JSON spells such variables: the texts that documents spell are those
without such pairs (`Json.isSpelled_iff`), and texts without surrogates are among them
(`Text.IsUnicode.isUnpaired`). The canonical text tells all of these. `Query.key_eq_iff` has both:
what a key tells of variables with any texts, and that of variables that JSON spells it tells
everything but the order. Integers are assumed to be short enough to print.
-/

set_option autoImplicit false

namespace FacetSearch

namespace Json

/-- Two values are spelled alike when they have the same canonical text: in order, and with every
pair of surrogates joined, they are equal. This is the finest that a key can tell. -/
def SpelledAlike (v w : Value) : Prop := (inOrder v).joinPairs = (inOrder w).joinPairs

/-- Canonical texts are equal exactly when the values are spelled alike. Putting entries in order
adds no text and takes none away, so any restriction on the texts is kept. -/
theorem write_inOrder_eq_iff {P : Text → Prop} {v w : Value} (hv : v.IsJson P) (hw : w.IsJson P) :
    write asciiPoint (inOrder v) = write asciiPoint (inOrder w) ↔ SpelledAlike v w :=
  write_asciiPoint_eq_iff (isJson_inOrder hv).isTree (isJson_inOrder hw).isTree

/-- Among values with unpaired texts, those that are spelled alike are the same up to order: there
is no pair to join. -/
theorem spelledAlike_iff {v w : Value} (hv : v.IsJson Text.IsUnpaired)
    (hw : w.IsJson Text.IsUnpaired) : SpelledAlike v w ↔ sameUpToOrder v w = true := by
  rw [SpelledAlike, Value.joinPairs_of_isTree (isJson_inOrder hv).isTree,
    Value.joinPairs_of_isTree (isJson_inOrder hw).isTree, sameUpToOrder_iff hv hw]

end Json

namespace CacheKey

open Value (AreJson)

/-- The canonical value of variables: their text in order, or nothing for variables that are
missing, which is another key part than the text of an empty object. -/
def written : Option (List (Text × Value)) → Value
  | none => .null
  | some fields => .text (.ofList (Json.write asciiPoint (Json.inOrder (.ofFields fields))))

/-- Variables of JSON have their canonical value, so a query with them always has a key. -/
theorem canonical_ofBindings {P : Text → Prop} {bindings : Option (List (Text × Value))}
    (h : AreJson P bindings) : canonical (.ofBindings bindings) = .ok (written bindings) := by
  cases bindings with
  | none => rfl
  | some fields =>
      show (Json.canonical (.ofFields fields)).map _ = _
      rw [Json.canonical_of_isJson (h fields rfl)]
      rfl

/-- Canonical values are equal exactly when the variables are spelled alike. Missing variables are
like no others, not even like an object without entries. -/
theorem written_eq_iff {P : Text → Prop} {bindings others : Option (List (Text × Value))}
    (hbindings : AreJson P bindings) (hothers : AreJson P others) :
    written bindings = written others
      ↔ Json.SpelledAlike (.ofBindings bindings) (.ofBindings others) := by
  -- A missing object has the null value for its key part, and every other one a text.
  cases bindings with
  | none =>
      cases others with
      | none => exact ⟨fun _ => rfl, fun _ => rfl⟩
      | some fields => exact ⟨nofun, nofun⟩
  | some fields =>
      cases others with
      | none => exact ⟨nofun, nofun⟩
      | some others =>
          show Value.text (.ofList _) = .text (.ofList _) ↔ _
          rw [Value.text.injEq, Text.ofList.injEq]
          exact Json.write_inOrder_eq_iff (hbindings fields rfl) (hothers others rfl)

/-- Variables with unpaired texts that are spelled alike are the same up to order, and missing ones
are the same as missing ones only. -/
theorem spelledAlike_ofBindings_iff {bindings others : Option (List (Text × Value))}
    (hbindings : AreJson Text.IsUnpaired bindings) (hothers : AreJson Text.IsUnpaired others) :
    Json.SpelledAlike (.ofBindings bindings) (.ofBindings others)
      ↔ Json.sameUpToOrder (.ofBindings bindings) (.ofBindings others) = true := by
  have hjson {given : Option (List (Text × Value))} (h : AreJson Text.IsUnpaired given) :
      (Value.ofBindings given).IsJson Text.IsUnpaired := by
    cases given with
    | none => exact .null
    | some fields => exact h fields rfl
  exact Json.spelledAlike_iff (hjson hbindings) (hjson hothers)

/-- A query that is cached. The kinds with variables have them as an object of JSON, or have
none. -/
inductive Query where
  | all
  | graphql (name : Text) (bindings : Option (List (Text × Value)))
  | companies
  | company (id : Text)
  | searches
  | search (text : Text) (bindings : Option (List (Text × Value)))

namespace Query

/-- The key of a query, as the library builds it for the kind of the query. It can fail only on the
variables. -/
def key : Query → Except Failure (List Value)
  | .all => .ok root
  | .graphql name bindings => CacheKey.graphql (.text name) (.ofBindings bindings)
  | .companies => .ok CacheKey.companies
  | .company id => .ok (CacheKey.company (.text id))
  | .searches => .ok CacheKey.searches
  | .search text bindings => CacheKey.search (.text text) (.ofBindings bindings)

/-- The variables of a query, if it has any. -/
def bindings? : Query → Option (List (Text × Value))
  | .graphql _ bindings => bindings
  | .search _ bindings => bindings
  | _ => none

/-- Two queries are the same by a way to compare variables: they are of one kind, with equal texts,
and with variables that compare. -/
def SameBy (alike : Value → Value → Prop) : Query → Query → Prop
  | .all, .all => True
  | .graphql name bindings, .graphql name' bindings' =>
      name = name' ∧ alike (.ofBindings bindings) (.ofBindings bindings')
  | .companies, .companies => True
  | .company id, .company id' => id = id'
  | .searches, .searches => True
  | .search text bindings, .search text' bindings' =>
      text = text' ∧ alike (.ofBindings bindings) (.ofBindings bindings')
  | _, _ => False

/-- Two ways to compare that agree on the variables of two queries make them the same alike. Queries
without variables compare by their kinds and texts alone. -/
theorem sameBy_congr {alike alike' : Value → Value → Prop} {q r : Query}
    (h : alike (.ofBindings q.bindings?) (.ofBindings r.bindings?)
      ↔ alike' (.ofBindings q.bindings?) (.ofBindings r.bindings?)) :
    q.SameBy alike r ↔ q.SameBy alike' r := by
  -- Only the two kinds with variables compare them.
  cases q with
  | graphql name bindings =>
      cases r with
      | graphql name' bindings' => exact and_congr_right fun _ => h
      | _ => exact Iff.rfl
  | search text bindings =>
      cases r with
      | search text' bindings' => exact and_congr_right fun _ => h
      | _ => exact Iff.rfl
  | _ => cases r <;> exact Iff.rfl

/-- The parts of the key of a query, when its variables can be written. The first parts tell the
kind. -/
def parts : Query → List Value
  | .all => [.text "grid"]
  | .graphql name bindings => [.text "grid", .text "graphql", .text name, written bindings]
  | .companies => [.text "grid", .text "company"]
  | .company id => [.text "grid", .text "company", .text id]
  | .searches => [.text "grid", .text "search"]
  | .search text bindings => [.text "grid", .text "search", .text text, written bindings]

variable {P : Text → Prop} {q r : Query}

/-- A query with variables of JSON has a key, and its parts are known. -/
theorem key_eq (h : AreJson P q.bindings?) : q.key = .ok q.parts := by
  cases q with
  | graphql name bindings =>
      rw [key, CacheKey.graphql, @canonical_ofBindings P bindings h]
      rfl
  | search text bindings =>
      rw [key, CacheKey.search, @canonical_ofBindings P bindings h]
      rfl
  | _ => rfl

/-- The parts of two keys are equal exactly when the queries are the same, with variables that are
spelled alike. Keys of different kinds differ in a fixed part or in their length. -/
theorem parts_eq_iff (hq : AreJson P q.bindings?) (hr : AreJson P r.bindings?) :
    q.parts = r.parts ↔ q.SameBy Json.SpelledAlike r := by
  -- A query is compared with one of its own kind in earnest. All other pairs are told apart by
  -- fixed parts.
  cases q with
  | graphql name bindings =>
      cases r with
      | graphql name' bindings' =>
          have hwritten := @written_eq_iff P bindings bindings' hq hr
          simp [parts, SameBy, hwritten]
      | _ => simp [parts, SameBy]
  | search text bindings =>
      cases r with
      | search text' bindings' =>
          have hwritten := @written_eq_iff P bindings bindings' hq hr
          simp [parts, SameBy, hwritten]
      | _ => simp [parts, SameBy]
  | _ => cases r <;> simp [parts, SameBy]

/-- The parts of two keys with variables that JSON spells are equal exactly when the queries are the
same up to the order of entries. -/
theorem parts_eq_iff_of_isSpelled (hq : AreJson Json.IsSpelled q.bindings?)
    (hr : AreJson Json.IsSpelled r.bindings?) :
    q.parts = r.parts ↔ q.SameBy (Json.sameUpToOrder · · = true) r :=
  have hunpaired {given : Option (List (Text × Value))} (h : AreJson Json.IsSpelled given) :
      AreJson Text.IsUnpaired given := h.imp fun _ => Json.isSpelled_iff.mp
  (parts_eq_iff hq hr).trans
    (sameBy_congr (spelledAlike_ofBindings_iff (hunpaired hq) (hunpaired hr)))

end Query

end CacheKey

end FacetSearch
