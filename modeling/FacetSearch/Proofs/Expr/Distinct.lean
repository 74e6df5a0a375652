import FacetSearch.Expr.Where
import FacetSearch.Proofs.Text.Split
import FacetSearch.Value.Key
import Mathlib.Data.List.Forall2

/-!
# `FacetSearch.Proofs.Expr.Distinct`: different expressions have different where mappings

A where mapping tells its expression, as long as no predicate compares with a mapping. The main fact
`Expr.toWhere_eq_iff` says this for equality and for every coarser notion of it that goes into
containers, `Value.IsEquality`. Two where mappings are equal exactly when the expressions are: of
the same shape, with the same paths and operators, and with equal values. Paths and operators can be
any texts, so neither `_and` nor points nor the empty text leads from one expression to another.

The steps of a path and the operator are one chain of mappings with one entry each, which ends at
the value (`toWhere_field`). A value that is no mapping shows where the chain ends, so the chain is
told from it (`same_nested_iff`). A conjunction is a chain of one mapping around a list, and a
predicate has a second mapping in that place.

`Value.equal` is one of the coarser notions. It takes numbers of any kind for equal when they are
exactly the same quantity, as keys do.
-/

set_option autoImplicit false

namespace FacetSearch

/-! ### Equality that goes into containers -/

namespace Value

/-- A notion of equality that goes into containers. A mapping is equal to mappings alone, and to
those with as many entries. Mappings with one entry under a text are equal when the texts are the
same and the values equal, and lists when they are equal item by item. -/
structure IsEquality (same : Value → Value → Prop) : Prop where
  map_left : ∀ {entries w}, same (.map entries) w →
    ∃ others, w = .map others ∧ entries.length = others.length
  map_right : ∀ {v entries}, same v (.map entries) → ∃ others, v = .map others
  empty : same (.map []) (.map [])
  entry : ∀ {name other : Text} {v w : Value},
    same (.map [(.text name, v)]) (.map [(.text other, w)]) ↔ name = other ∧ same v w
  list : ∀ {items others : List Value},
    same (.list items) (.list others) ↔ List.Forall₂ same items others

/-- Being the same value is a notion of equality, and the finest one. -/
theorem isEquality_eq : IsEquality (· = ·) where
  map_left h := ⟨_, h.symm, rfl⟩
  map_right h := ⟨_, h⟩
  empty := rfl
  entry := by simp
  list := by
    intro items others
    rw [List.forall₂_eq_eq_eq, Value.list.injEq]

mutual

/-- Whether two values are equal: sequences item by item, mappings entry by entry in any order, and
other values when they are one key. Numbers of all kinds are compared by quantity then, and flags
count as numbers. -/
def equal : Value → Value → Bool
  | .list items, .list others => equalItems items others
  | .tuple items, .tuple others => equalItems items others
  | .map entries, .map others =>
      entries.length == others.length && equalEntries entries others
  | v, w => v.sameKey w
termination_by structural v => v

/-- Whether two sequences of values are equal item by item. -/
def equalItems : List Value → List Value → Bool
  | [], [] => true
  | v :: vs, w :: ws => equal v w && equalItems vs ws
  | _, _ => false
termination_by structural vs => vs

/-- Whether every entry of a mapping is equal to one of another. -/
def equalEntries : List (Value × Value) → List (Value × Value) → Bool
  | [], _ => true
  | (key, value) :: rest, others =>
      others.any (fun other => key.sameKey other.1 && equal value other.2) &&
        equalEntries rest others
termination_by structural entries => entries

end

/-- Items are equal one by one. -/
theorem equalItems_iff (items others : List Value) :
    equalItems items others = true ↔ List.Forall₂ (fun v w => equal v w = true) items others := by
  induction items generalizing others with
  | nil => cases others <;> simp [equalItems]
  | cons v vs ih => cases others <;> simp [equalItems, ih]

/-- A mapping is no key, so it is one key with nothing. This is what keeps a mapping from being
equal to a value of another kind. -/
theorem sameKey_map (v : Value) (entries : List (Value × Value)) :
    v.sameKey (.map entries) = false := by
  cases v with
  | bool flag => rfl
  | int number => rfl
  | float number => cases number <;> rfl
  | decimal number => cases number <;> rfl
  | _ => rfl

/-- Equality of values by quantity is a notion of equality in the sense needed here, although it
takes different values for equal. -/
theorem isEquality_equal : IsEquality fun v w => equal v w = true where
  map_left {entries w} h := by
    cases w with
    | map others =>
        rw [equal, Bool.and_eq_true] at h
        exact ⟨others, rfl, beq_iff_eq.mp h.1⟩
    | _ => cases h
  map_right {v entries} h := by
    cases v with
    | map others => exact ⟨others, rfl⟩
    | _ => simp [equal, sameKey_map] at h
  empty := rfl
  -- Two mappings with one entry each are equal when the entries are. Keys that are texts compare as
  -- texts, so the wider notion of equality is left to the values.
  entry := by
    intro name other v w
    have hname : (other == name) = true ↔ name = other := by
      rw [beq_iff_eq, eq_comm]
    show ((some other == some name && equal v w || false) && true) = true ↔ _
    rw [Bool.and_true, Bool.or_false, Bool.and_eq_true, Option.some_beq_some, hname]
  list := equalItems_iff _ _

end Value

/-! ### Expressions from where mappings -/

namespace Expr

mutual

/-- The values that the predicates of an expression compare with, from left to right. A mapping
among them could continue the path of its predicate, and is what has to be excluded. -/
def compared : Expr → List Value
  | .field _ _ value => [value]
  | .all first second rest => compared first ++ compared second ++ comparedIn rest
  | .everything => []

/-- The values that the predicates of several expressions compare with. -/
def comparedIn : List Expr → List Value
  | [] => []
  | e :: es => compared e ++ comparedIn es

end

mutual

/-- Expressions of the same shape, with the same paths and operators, and with equal values. Only
the values are compared by the given notion, as all else is texts and structure. -/
def Same (same : Value → Value → Prop) : Expr → Expr → Prop
  | .field path operator value, .field path' operator' value' =>
      path = path' ∧ operator = operator' ∧ same value value'
  | .all first second rest, .all first' second' rest' =>
      Same same first first' ∧ Same same second second' ∧ SameAll same rest rest'
  | .everything, .everything => True
  | _, _ => False
termination_by structural e => e

/-- Lists of expressions that are the same one by one. -/
def SameAll (same : Value → Value → Prop) : List Expr → List Expr → Prop
  | [], [] => True
  | e :: es, f :: fs => Same same e f ∧ SameAll same es fs
  | _, _ => False
termination_by structural es => es

end

mutual

/-- With the same values, expressions are the same when they are one. -/
theorem same_eq_iff : ∀ e f : Expr, Same (· = ·) e f ↔ e = f
  | .field path operator value, f => by
      cases f <;> simp [Same]
  | .all first second rest, f => by
      cases f with
      | all first' second' rest' =>
          rw [Same, same_eq_iff first first', same_eq_iff second second',
            sameAll_eq_iff rest rest', Expr.all.injEq]
      | _ => simp [Same]
  | .everything, f => by
      cases f <;> simp [Same]

/-- With the same values, lists of expressions are the same when they are one. -/
theorem sameAll_eq_iff : ∀ es fs : List Expr, SameAll (· = ·) es fs ↔ es = fs
  | [], fs => by
      cases fs <;> simp [SameAll]
  | e :: es, fs => by
      cases fs with
      | nil => simp [SameAll]
      | cons f fs => rw [SameAll, same_eq_iff e f, sameAll_eq_iff es fs, List.cons.injEq]

end

/-- The where mapping of a predicate: a chain of mappings with one entry each, for the steps of the
path and the operator, that ends at the value. -/
theorem toWhere_field (path operator : Text) (value : Value) :
    (Expr.field path operator value).toWhere = nested (pathSteps path ++ [operator]) value := by
  rw [toWhere, nested, nested, List.foldr_append]
  rfl

/-- The chain of a predicate starts with two mappings at least, since every path has a step, even
the empty one, and the operator is another. -/
theorem exists_chain (path operator : Text) :
    ∃ step next rest, pathSteps path ++ [operator] = step :: next :: rest := by
  obtain ⟨part, parts, hparts⟩ := exists_partsAt (CodePoint.char '.') path.toList
  rw [pathSteps, hparts]
  cases parts with
  | nil => exact ⟨_, _, _, rfl⟩
  | cons next rest => exact ⟨_, _, _, rfl⟩

/-- The where mapping of a predicate has one entry. -/
theorem exists_toWhere_field (path operator : Text) (value : Value) :
    ∃ entry, (Expr.field path operator value).toWhere = .map [entry] := by
  obtain ⟨step, next, rest, hchain⟩ := exists_chain path operator
  rw [toWhere_field, hchain]
  exact ⟨_, rfl⟩

/-- The chain of a predicate tells its path and its operator: the last step is the operator, and the
steps before it tell the path (`pathSteps_inj`). -/
theorem chain_inj {path operator path' operator' : Text} :
    pathSteps path ++ [operator] = pathSteps path' ++ [operator']
      ↔ path = path' ∧ operator = operator' := by
  rw [← List.concat_eq_append, ← List.concat_eq_append, List.concat_inj, pathSteps_inj]

variable {same : Value → Value → Prop}

section
variable (hsame : Value.IsEquality same)
include hsame

/-- Chains that end at values that are no mappings are equal when they have the same steps and equal
values at their ends. -/
theorem same_nested_iff {steps others : List Text} {v w : Value} (hv : v.entries? = none)
    (hw : w.entries? = none) :
    same (nested steps v) (nested others w) ↔ steps = others ∧ same v w := by
  induction steps generalizing others with
  | nil =>
      cases others with
      | nil => exact ⟨fun h => ⟨rfl, h⟩, fun h => h.2⟩
      | cons other rest =>
          -- The first chain has ended, so its value would have to be a mapping.
          refine ⟨fun h => ?_, fun h => (by cases h.1)⟩
          obtain ⟨entries, hentries⟩ := hsame.map_right (show same v (.map _) from h)
          rw [hentries] at hv
          cases hv
  | cons step below ih =>
      cases others with
      | nil =>
          refine ⟨fun h => ?_, fun h => (by cases h.1)⟩
          -- The second chain has ended, and its value would have to be a mapping.
          obtain ⟨entries, hentries, -⟩ := hsame.map_left (show same (.map _) w from h)
          rw [hentries] at hw
          cases hw
      | cons other rest =>
          show same (.map [(.text step, nested below v)]) (.map [(.text other, nested rest w)]) ↔ _
          rw [hsame.entry, ih, List.cons.injEq, and_assoc]

/-- Equal mappings have the same number of entries. -/
theorem length_eq_of_same {entries others : List (Value × Value)}
    (h : same (.map entries) (.map others)) : entries.length = others.length := by
  obtain ⟨others', heq, hlength⟩ := hsame.map_left h
  rw [hlength, Value.map.inj heq]

/-- A predicate and a conjunction have no equal where mappings: where the one has a second mapping,
the other has a list. -/
theorem not_same_field_all (path operator : Text) (value : Value) (items : List Value) :
    ¬ same (Expr.field path operator value).toWhere (.map [(.text "_and", .list items)]) ∧
    ¬ same (.map [(.text "_and", .list items)]) (Expr.field path operator value).toWhere := by
  -- The one has a mapping under its first step and the other a list, which are never equal.
  obtain ⟨step, next, rest, hchain⟩ := exists_chain path operator
  rw [toWhere_field, hchain]
  constructor
  · intro h
    obtain ⟨-, hinner⟩ := hsame.entry.mp (show same (.map [(.text step, .map _)]) _ from h)
    obtain ⟨_, hlist, -⟩ := hsame.map_left hinner
    cases hlist
  · intro h
    obtain ⟨-, hinner⟩ := hsame.entry.mp (show same _ (.map [(.text step, .map _)]) from h)
    obtain ⟨_, hlist⟩ := hsame.map_right hinner
    cases hlist

end

mutual

/-- Where mappings are equal when the expressions are the same, and only then. Expressions of
different kinds have mappings with different numbers of entries, or are a predicate and a
conjunction. -/
theorem same_toWhere_iff (hsame : Value.IsEquality same) : ∀ e f : Expr,
    (∀ v ∈ e.compared, v.entries? = none) → (∀ v ∈ f.compared, v.entries? = none) →
    (same e.toWhere f.toWhere ↔ Same same e f)
  -- A predicate is a chain of mappings with one entry each, so it is told down to its value.
  | .field path operator value, f, he, hf => by
      cases f with
      | field path' operator' value' =>
          rw [toWhere_field, toWhere_field,
            same_nested_iff hsame (he _ List.mem_cons_self) (hf _ List.mem_cons_self), chain_inj,
            Same, and_assoc]
      | all first second rest =>
          exact iff_of_false (not_same_field_all hsame path operator value _).1 id
      | everything =>
          obtain ⟨entry, hentry⟩ := exists_toWhere_field path operator value
          rw [hentry]
          exact iff_of_false (fun h => nomatch length_eq_of_same hsame h) id
  -- A conjunction is one entry with a list, so it is told by its conditions, each by recursion.
  | .all first second rest, f, he, hf => by
      cases f with
      | field path operator value =>
          exact iff_of_false (not_same_field_all hsame path operator value _).2 id
      | all first' second' rest' =>
          rw [compared, List.forall_mem_append, List.forall_mem_append] at he hf
          rw [toWhere, toWhere, hsame.entry, hsame.list, List.forall₂_cons, List.forall₂_cons,
            same_toWhere_iff hsame first first' he.1.1 hf.1.1,
            same_toWhere_iff hsame second second' he.1.2 hf.1.2,
            sameAll_toWhere_iff hsame rest rest' he.2 hf.2, Same, eq_self, true_and]
      | everything =>
          exact iff_of_false (fun h => nomatch length_eq_of_same hsame h) id
  -- The empty mapping is that of one expression alone.
  | .everything, f, _, _ => by
      cases f with
      | field path operator value =>
          obtain ⟨entry, hentry⟩ := exists_toWhere_field path operator value
          rw [hentry]
          exact iff_of_false (fun h => nomatch length_eq_of_same hsame h) id
      | all first second rest =>
          exact iff_of_false (fun h => nomatch length_eq_of_same hsame h) id
      | everything => exact iff_of_true hsame.empty trivial

/-- Lists of where mappings are equal one by one when the expressions are the same one by one. -/
theorem sameAll_toWhere_iff (hsame : Value.IsEquality same) : ∀ es fs : List Expr,
    (∀ v ∈ comparedIn es, v.entries? = none) → (∀ v ∈ comparedIn fs, v.entries? = none) →
    (List.Forall₂ same (toWheres es) (toWheres fs) ↔ SameAll same es fs)
  | [], fs, _, _ => by
      cases fs <;> simp [toWheres, SameAll]
  | e :: es, fs, he, hf => by
      cases fs with
      | nil => simp [toWheres, SameAll]
      | cons f fs =>
          rw [comparedIn, List.forall_mem_append] at he hf
          rw [toWheres, toWheres, List.forall₂_cons, same_toWhere_iff hsame e f he.1 hf.1,
            sameAll_toWhere_iff hsame es fs he.2 hf.2, SameAll]

end

/-- **Different expressions have different where mappings.** Two expressions whose predicates
compare with no mapping have the same where mapping exactly when they are one expression. For any
notion of equality that goes into containers, their where mappings are equal exactly when the
expressions have the same shape, the same paths and operators, and equal values. -/
theorem toWhere_eq_iff {e f : Expr} (he : ∀ v ∈ e.compared, v.entries? = none)
    (hf : ∀ v ∈ f.compared, v.entries? = none) :
    (e.toWhere = f.toWhere ↔ e = f) ∧
    ∀ {same : Value → Value → Prop}, Value.IsEquality same →
      (same e.toWhere f.toWhere ↔ Same same e f) :=
  ⟨(same_toWhere_iff Value.isEquality_eq e f he hf).trans (same_eq_iff e f),
    fun hsame => same_toWhere_iff hsame e f he hf⟩

/-- The main fact at conjunctions around one predicate each. A point that goes from the path to the
operator makes another where mapping. The flag in the place of a one does too, but an equal one. -/
theorem toWhere_eq_iff_dotted :
    let e := Expr.all (.field "_and.b" "" (.list [.int 1])) .everything []
    let f := Expr.all (.field "_and" "b." (.list [.int 1])) .everything []
    let g := Expr.all (.field "_and.b" "" (.list [.bool true])) .everything []
    e.toWhere ≠ f.toWhere ∧ e.toWhere ≠ g.toWhere ∧ e.toWhere.equal g.toWhere = true := by
  intro e f g
  -- Nothing that is compared is a mapping, so the main fact applies to all three.
  have he : ∀ v ∈ e.compared, v.entries? = none := by decide
  have hf : ∀ v ∈ f.compared, v.entries? = none := by decide
  have hg : ∀ v ∈ g.compared, v.entries? = none := by decide
  refine ⟨fun h => ?_, fun h => ?_, ?_⟩
  · have heq := (toWhere_eq_iff he hf).1.mp h
    simp [e, f] at heq
  · have heq := (toWhere_eq_iff he hg).1.mp h
    simp [e, g] at heq
  · refine ((toWhere_eq_iff he hg).2 Value.isEquality_equal).mpr ?_
    exact ⟨⟨rfl, rfl, rfl⟩, trivial, trivial⟩

end Expr

end FacetSearch
