import FacetSearch.Selection

/-!
# `FacetSearch.Selection.Session`: a selection in use and the copies taken of it

A caller leaves out one dimension after the other, goes back to the selection that it started from,
and may try to assign to a field. Leaving out a dimension makes a new selection and takes it into
use; going back takes the starting one into use again. An assignment is about the selection in use
and would change it in its place, so it could reach the starting one too.
-/

set_option autoImplicit false

namespace FacetSearch

/-- The selection with nothing chosen in some dimensions, which are left out one by one. -/
def Selection.withoutAll (s : Selection) (ds : List Dimension) : Selection :=
  ds.foldl Selection.without s

/-- What a caller does with the selection in use: leave a dimension out, take up the starting one
again, or try to assign to a field. -/
inductive SelectionStep where
  | without (d : Dimension)
  | reset
  | assign (field : Selection.Field) (value : Value)

/-- The selections made so far, the starting one first, and the place of the one in use. There is
one in use always, so its place is among them. -/
structure SelectionSession where
  made : List Selection
  inUse : Nat
  inUse_lt : inUse < made.length

namespace SelectionSession

/-- A session that starts from a selection. -/
def start (s : Selection) : SelectionSession where
  made := [s]
  inUse := 0
  inUse_lt := Nat.zero_lt_one

/-- The selection in use, which is there by the bound on its place. -/
def current (v : SelectionSession) : Selection := v.made.get ⟨v.inUse, v.inUse_lt⟩

/-- The selection that the session started from: the first of those that were made. -/
def first (v : SelectionSession) : Selection :=
  v.made.get ⟨0, Nat.zero_lt_of_lt v.inUse_lt⟩

/-- Puts a selection in the place of the one in use. This is what an assignment would do, if one
could succeed. -/
def replace (v : SelectionSession) (s : Selection) : SelectionSession where
  made := v.made.set v.inUse s
  inUse := v.inUse
  inUse_lt := by
    rw [List.length_set]
    exact v.inUse_lt

/-- Makes a new selection and takes it into use. The ones made before stay. -/
def add (v : SelectionSession) (s : Selection) : SelectionSession where
  made := v.made ++ [s]
  inUse := v.made.length
  inUse_lt := by
    rw [List.length_append]
    exact Nat.lt_succ_self _

/-- Takes the starting selection into use again. -/
def restart (v : SelectionSession) : SelectionSession where
  made := v.made
  inUse := 0
  inUse_lt := Nat.zero_lt_of_lt v.inUse_lt

/-- Runs one step: the selection in use after it or the failure of the step, and the session. -/
def step (v : SelectionSession) : SelectionStep → Except Failure Selection × SelectionSession
  | .without d => (.ok (v.current.without d), v.add (v.current.without d))
  | .reset => (.ok v.first, v.restart)
  | .assign field value =>
      match v.current.assign field value with
      | .ok changed => (.ok changed, v.replace changed)
      | .error cause => (.error cause, v)

/-- Runs steps one after the other: the outcome of each, and the session after the last. -/
def run (v : SelectionSession) :
    List SelectionStep → List (Except Failure Selection) × SelectionSession
  | [] => ([], v)
  | s :: rest =>
      let (outcome, after) := v.step s
      let (outcomes, last) := after.run rest
      (outcome :: outcomes, last)

end SelectionSession

end FacetSearch
