import FacetSearch.Proofs.Expr.Distinct
import FacetSearch.Proofs.Literal.Meaning

/-!
# `FacetSearch.Proofs.Expr.Clause`: what a where clause asks for

A where clause joins its conditions by one of three rules, for none, one and many. Two facts look
through the rule, in opposite directions:

* `conjuncts_ofList`: the conditions come back from the clause, in order, when each is a predicate.
* `write_ofList`: the text of the clause depends on nothing but the texts of its conditions.

`Term.under?` follows a path into a condition, so it finds what a predicate compares with under its
path and operator, and nothing under another.
-/

set_option autoImplicit false

namespace FacetSearch

open Grammar

namespace Literal

/-- The literal of nested mappings is nested objects, with the steps for field names. -/
theorem ofValueIn_nested (inRecord : Bool) (steps : List Text) (node : Value) :
    ofValueIn inRecord (Expr.nested steps node) = nested steps (ofValueIn inRecord node) := by
  induction steps with
  | nil => rfl
  | cons step rest ih =>
      have hstep : (Value.text step).plainString = step := rfl
      show object [((Value.text step).plainString, ofValueIn inRecord (Expr.nested rest node))] = _
      rw [hstep, ih]
      rfl

/-- The literal of a predicate: the value under the steps of the path and the operator. The operator
is one more step here, and a point in it does not split it. -/
theorem ofValue_field (path operator : Text) (value : Value) :
    ofValue (Expr.field path operator value).toWhere
      = nested (pathSteps path ++ [operator]) (ofValue value) := by
  rw [Expr.toWhere_field, ofValue, ofValueIn_nested, ofValue]

/-- The literal of a conjunction: the list of its conditions, in their order, under one name. -/
theorem ofValue_all (first second : Expr) (rest : List Expr) :
    ofValue (Expr.all first second rest).toWhere
      = object [("_and", list ((first :: second :: rest).map fun e => ofValue e.toWhere))] := by
  rw [Expr.toWhere, Expr.toWheres_eq, ← List.map_cons, ← List.map_cons]
  show object [("_and", list (ofItems false _))] = _
  rw [ofItems_eq, List.map_map]
  rfl

/-! ### Conditions from clauses -/

/-- The value of nested objects whose first step is known. -/
theorem term_nested_cons (step : Text) (rest : List Text) (x : Literal) :
    (nested (step :: rest) x).term = .object [(step, (nested rest x).term)] := rfl

end Literal

namespace Grammar.Term

/-- The items of a list, and none of anything else. -/
def items : Term → List Term
  | .list values => values
  | _ => []

/-- The text of a value, if it is one. -/
def text? : Term → Option Text
  | .text content => some content
  | _ => none

/-- The conditions that a where clause joins. An object with a field that is not `_and` is one
condition, and the empty object joins none. -/
def conjuncts : Term → List Term
  | .object [] => []
  | .object [(name, value)] => if name = "_and" then value.items else [.object [(name, value)]]
  | x => [x]

/-- What stands under a path of objects with one field each. Where an object has other fields or
none, nothing stands under the path. -/
def under? : List Text → Term → Option Term
  | [], x => some x
  | step :: rest, .object [(name, value)] => if name = step then under? rest value else none
  | _ :: _, _ => none

/-- Nested objects hold their node under their own steps. The steps are followed from the outermost
on. -/
theorem under?_nested (steps : List Text) (x : Literal) :
    under? steps (Literal.nested steps x).term = some x.term := by
  induction steps with
  | nil => rfl
  | cons step rest ih => rw [Literal.term_nested_cons, under?, if_pos rfl, ih]

/-- Nested objects hold nothing under steps of which none list starts the other. The two lists part
at a step that both have, and there the names differ. -/
theorem under?_nested_of_ne {steps others : List Text} (x : Literal)
    (h : ¬ steps <+: others) (h' : ¬ others <+: steps) :
    under? others (Literal.nested steps x).term = none := by
  induction others generalizing steps with
  | nil => exact absurd List.nil_prefix h'
  | cons other rest ih =>
      cases steps with
      | nil => exact absurd List.nil_prefix h
      | cons step below =>
          rw [Literal.term_nested_cons, under?]
          split
          · rename_i heq
            subst heq
            -- Past a common step, neither rest starts the other.
            refine ih (fun hprefix => h ?_) fun hprefix => h' ?_
            · exact (List.prefix_cons_inj step).mpr hprefix
            · exact (List.prefix_cons_inj step).mpr hprefix
          · rfl

end Grammar.Term

namespace Expr

/-- A predicate: a comparison of a field that is not named like a conjunction. The clause of a
comparison under `_and` could not be told from a conjunction, so such a field is excluded. -/
def isPredicate : Expr → Bool
  | .field path _ _ => (pathSteps path).head?.any (· != ("_and" : Text))
  | _ => false

/-- The clause of a predicate is a single condition, since its first step is not `_and`. -/
theorem conjuncts_of_isPredicate {e : Expr} (h : e.isPredicate = true) :
    (Literal.ofValue e.toWhere).term.conjuncts = [(Literal.ofValue e.toWhere).term] := by
  cases e with
  | field path operator value =>
      rw [isPredicate, Option.any_eq_true] at h
      obtain ⟨step, hhead, hstep⟩ := h
      obtain ⟨rest, hsteps⟩ : ∃ rest, pathSteps path = step :: rest :=
        List.head?_eq_some_iff.mp hhead
      rw [Literal.ofValue_field, hsteps, List.cons_append, Literal.term_nested_cons,
        Term.conjuncts, if_neg (bne_iff_ne.mp hstep)]
  | all first second rest => cases h
  | everything => cases h

/-- **The conditions come back from a clause**, however many are joined. Of none the clause is
empty, of one it is the condition itself, and of more a conjunction. -/
theorem conjuncts_ofList {es : List Expr} (h : ∀ e ∈ es, e.isPredicate = true) :
    (Literal.ofValue (ofList es).toWhere).term.conjuncts
      = es.map fun e => (Literal.ofValue e.toWhere).term := by
  -- The three cases are those in which conditions are joined.
  match es with
  | [] => rfl
  | [e] => exact conjuncts_of_isPredicate (h e List.mem_cons_self)
  | first :: second :: rest =>
      rw [ofList, Literal.ofValue_all]
      show (Literal.list
        ((first :: second :: rest).map fun e => Literal.ofValue e.toWhere)).term.items = _
      rw [Literal.term, Literal.terms_eq, List.map_map]
      rfl

end Expr

namespace Literal

/-! ### Clauses from conditions -/

/-- The texts of items, one by one. -/
theorem writeItems_eq (items : List Literal) : writeItems items = items.map write := by
  induction items with
  | nil => rfl
  | cons x xs ih => rw [writeItems, ih, List.map_cons]

/-- The text of nested objects depends on the text of the node, so replacing the node by another
with its text changes nothing around it. -/
theorem write_nested (steps : List Text) {x y : Literal} (h : x.write = y.write) :
    (nested steps x).write = (nested steps y).write := by
  induction steps with
  | nil => exact h
  | cons step rest ih =>
      show objectText [step.toList ++ .char ':' :: .char ' ' :: (nested rest x).write] = _
      rw [ih]
      rfl

/-- The text of a list depends on the texts of its items. -/
theorem write_list {xs ys : List Literal} (h : xs.map write = ys.map write) :
    (list xs).write = (list ys).write := by
  rw [write, write, writeItems_eq, writeItems_eq, h]

end Literal

namespace Expr

/-- The text of an expression in a query. -/
theorem toList_whereText (e : Expr) : e.whereText.toList = (Literal.ofValue e.toWhere).write :=
  rfl

/-- **The text of a clause depends on the texts of its conditions** alone. -/
theorem write_ofList {es fs : List Expr} (h : es.map whereText = fs.map whereText) :
    (ofList es).whereText = (ofList fs).whereText := by
  -- Lists with the same texts have the same length, so both clauses follow the same rule.
  match es, fs with
  | [], [] => rfl
  | [], _ :: _ => cases h
  | _ :: _, [] => cases h
  | [e], [f] => exact (List.cons.inj h).1
  | [_], _ :: _ :: _ => cases (List.cons.inj h).2
  | _ :: _ :: _, [_] => cases (List.cons.inj h).2
  | first :: second :: rest, first' :: second' :: rest' =>
      have hwrite : ∀ gs : List Expr, (gs.map fun g => Literal.ofValue g.toWhere).map Literal.write
          = (gs.map whereText).map Text.toList := by
        intro gs
        rw [List.map_map, List.map_map]
        exact List.map_congr_left fun g _ => g.toList_whereText.symm
      refine Text.toList_inj.mp ?_
      rw [toList_whereText, toList_whereText, ofList, ofList, Literal.ofValue_all,
        Literal.ofValue_all]
      refine Literal.write_nested ["_and"] (Literal.write_list ?_)
      rw [hwrite, hwrite, h]

/-- **An expressible clause is told from its text.** The reader of values gets the clause back, so
two clauses with one text are one. -/
theorem term_inj_of_whereText {e f : Expr} (he : e.toWhere.IsExpressible)
    (hf : f.toWhere.IsExpressible) (h : e.whereText = f.whereText) :
    (Literal.ofValue e.toWhere).term = (Literal.ofValue f.toWhere).term := by
  -- Both texts are read back, and the reader gives one result.
  have hread : ∀ g : Expr, g.toWhere.IsExpressible →
      readValue? g.whereText.toList = some (Literal.ofValue g.toWhere).term := by
    intro g hg
    rw [toList_whereText]
    exact readValue?_write hg.isReadable
  exact Option.some.inj ((hread e he).symm.trans (h ▸ hread f hf))

end Expr

end FacetSearch
