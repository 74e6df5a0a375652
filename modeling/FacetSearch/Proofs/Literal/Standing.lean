import FacetSearch.Expr.Tagged
import FacetSearch.Proofs.Expr.Clause

/-!
# `FacetSearch.Proofs.Literal.Standing`: where expressions inside other values

A where expression is written as its where clause. This module says where in a value this holds. The
way to a place in a value is a list of steps from the outside in: into a list, a tuple or a mapping,
into the value of a predicate, which may be a condition at any depth, and into the values that a
selection, a request and a page of profiles hold. `fill` puts a value at the place.

The main fact `toLiteral_fill` is that the way decides. When it leads into none of these three
records, the expression can be replaced by its where mapping and the literal stays. When it leads
into one of them, the expression is written with its kind, as its tagged mapping is, and this is
never what the where mapping is written as (`toLiteral_inSelection` for an example).

The proof goes along the way. One step tells the literals of two values at its end apart exactly
when the values have different literals, in a record or not as the step says
(`ValueStep.ofValueIn_fill_eq_iff`).
-/

set_option autoImplicit false

namespace FacetSearch

/-- The selection with other values chosen in a dimension. -/
def Selection.choose (s : Selection) (items : List Value) : Dimension → Selection
  | .types => { s with types := some items }
  | .sectors => { s with sectors := some items }
  | .statuses => { s with statuses := some items }
  | .tags => { s with tags := some items }

/-! ### Ways into values -/

/-- The way to the value of a predicate inside a where expression: the expression is the predicate,
or one of its conditions has it. -/
inductive ExprPlace where
  | here (path operator : Text)
  | inFirst (inner : ExprPlace) (second : Expr) (rest : List Expr)
  | inSecond (first : Expr) (inner : ExprPlace) (rest : List Expr)
  | inRest (first second : Expr) (before : List Expr) (inner : ExprPlace) (after : List Expr)

/-- The expression with a value at a place. -/
def ExprPlace.fill (v : Value) : ExprPlace → Expr
  | .here path operator => .field path operator v
  | .inFirst inner second rest => .all (inner.fill v) second rest
  | .inSecond first inner rest => .all first (inner.fill v) rest
  | .inRest first second before inner after => .all first second (before ++ inner.fill v :: after)

/-- A step from a value to one of the values that it holds. -/
inductive ValueStep where
  | item (before after : List Value)
  | tupleItem (before after : List Value)
  | entry (before : List (Value × Value)) (key : Value) (after : List (Value × Value))
  | compared (place : ExprPlace)
  | chosen (s : Selection) (d : Dimension) (before after : List Value)
  | binding (r : Request) (before : List (Text × Value)) (name : Text)
      (after : List (Text × Value))
  | profile (p : Page) (others : List (List (Text × Value))) (before : List (Text × Value))
      (name : Text) (after : List (Text × Value)) (more : List (List (Text × Value)))

namespace ValueStep

/-- The value that the step starts from, with a value where it ends. -/
def fill (v : Value) : ValueStep → Value
  | .item before after => .list (before ++ v :: after)
  | .tupleItem before after => .tuple (before ++ v :: after)
  | .entry before key after => .map (before ++ (key, v) :: after)
  | .compared place => .expr (place.fill v)
  | .chosen s d before after => .selection (s.choose (before ++ v :: after) d)
  | .binding r before name after =>
      .request { r with bindings := some (before ++ (name, v) :: after) }
  | .profile p others before name after more =>
      .page { p with profiles := others ++ (before ++ (name, v) :: after) :: more }

/-- Whether the step leads into a record that is no where expression. -/
def isRecord : ValueStep → Bool
  | .item .. => false
  | .tupleItem .. => false
  | .entry .. => false
  | .compared .. => false
  | .chosen .. => true
  | .binding .. => true
  | .profile .. => true

end ValueStep

/-- The value with another one at the end of a way. -/
def fill (steps : List ValueStep) (v : Value) : Value :=
  steps.foldr (fun step inner => step.fill inner) v

/-- Whether a way leads into a record that is no where expression. -/
def entersRecord (steps : List ValueStep) : Bool := steps.any ValueStep.isRecord

namespace Literal

/-! ### Parts of literals -/

/-- A part of a list is told among the same others. Each container below comes down to this. -/
theorem append_cons_eq_iff {α : Type} (before after : List α) (x y : α) :
    before ++ x :: after = before ++ y :: after ↔ x = y := by
  rw [List.append_cancel_left_eq, List.cons.injEq, and_iff_left rfl]

/-- The literals of entries with text keys, one by one. -/
theorem ofNamed_eq (entries : List (Text × Value)) :
    ofNamed entries = entries.map fun entry => (entry.1, ofValueIn true entry.2) := by
  induction entries with
  | nil => rfl
  | cons entry rest ih => rw [ofNamed, ih, List.map_cons]

/-- The literals of profiles, one by one. -/
theorem ofProfiles_eq (profiles : List (List (Text × Value))) :
    ofProfiles profiles = profiles.map fun profile => .object (ofNamed profile) := by
  induction profiles with
  | nil => rfl
  | cons profile rest ih => rw [ofProfiles, ih, List.map_cons]

/-- The where clauses of expressions, one by one. -/
theorem ofWheres_eq (es : List Expr) : ofWheres es = es.map ofWhere := by
  induction es with
  | nil => rfl
  | cons e es ih => rw [ofWheres, ih, List.map_cons]

/-- The tagged objects of expressions, one by one. -/
theorem ofTaggedItems_eq (es : List Expr) :
    ofTaggedItems es = es.map fun e => .object (ofTagged e) := by
  induction es with
  | nil => rfl
  | cons e es ih => rw [ofTaggedItems, ih, List.map_cons]

/-- Nested objects tell their node, however many steps lead to it. -/
theorem nested_eq_iff (steps : List Text) (x y : Literal) :
    nested steps x = nested steps y ↔ x = y := by
  induction steps with
  | nil => exact Iff.rfl
  | cons step rest ih =>
      show Literal.object [(step, nested rest x)] = .object [(step, nested rest y)] ↔ _
      rw [Literal.object.injEq, List.cons.injEq, and_iff_left rfl, Prod.mk.injEq, ih,
        and_iff_right rfl]

/-- The items of a list tell the literal at a place among them. -/
theorem ofItems_eq_iff (inRecord : Bool) (before after : List Value) (v w : Value) :
    ofItems inRecord (before ++ v :: after) = ofItems inRecord (before ++ w :: after)
      ↔ ofValueIn inRecord v = ofValueIn inRecord w := by
  rw [ofItems_eq, ofItems_eq, List.map_append, List.map_append, List.map_cons, List.map_cons,
    append_cons_eq_iff]

/-- Entries with text keys tell the literal under a key among them. -/
theorem ofNamed_eq_iff (before : List (Text × Value)) (name : Text)
    (after : List (Text × Value)) (v w : Value) :
    ofNamed (before ++ (name, v) :: after) = ofNamed (before ++ (name, w) :: after)
      ↔ ofValueIn true v = ofValueIn true w := by
  rw [ofNamed_eq, ofNamed_eq, List.map_append, List.map_append, List.map_cons, List.map_cons,
    append_cons_eq_iff, Prod.mk.injEq, and_iff_right rfl]

/-- Where clauses tell the literal of the value that a predicate compares with. By induction on the
way to the predicate. -/
theorem ofWhere_fill_eq_iff (place : ExprPlace) (v w : Value) :
    ofWhere (place.fill v) = ofWhere (place.fill w)
      ↔ ofValueIn false v = ofValueIn false w := by
  induction place with
  | here path operator =>
      rw [ExprPlace.fill, ExprPlace.fill, ofWhere, ofWhere, nested_eq_iff]
      simp
  -- A condition is one of the items under `_and`, and the others are the same in both.
  | inFirst inner second rest ih =>
      rw [ExprPlace.fill, ExprPlace.fill, ofWhere, ofWhere, ← ih]
      simp
  | inSecond first inner rest ih =>
      rw [ExprPlace.fill, ExprPlace.fill, ofWhere, ofWhere, ← ih]
      simp
  | inRest first second before inner after ih =>
      rw [ExprPlace.fill, ExprPlace.fill, ofWhere, ofWhere, ofWheres_eq, ofWheres_eq, ← ih]
      simp

/-- Tagged objects tell the literal of the value that a predicate compares with. This value stands
inside a record, unlike in a where clause. -/
theorem ofTagged_fill_eq_iff (place : ExprPlace) (v w : Value) :
    ofTagged (place.fill v) = ofTagged (place.fill w)
      ↔ ofValueIn true v = ofValueIn true w := by
  -- At the predicate the value is one field of the tagged object. Around it stand the other
  -- conditions, which are the same on both sides.
  induction place with
  | here path operator =>
      rw [ExprPlace.fill, ExprPlace.fill, ofTagged, ofTagged]
      simp
  | inFirst inner second rest ih =>
      rw [ExprPlace.fill, ExprPlace.fill, ofTagged, ofTagged, ← ih]
      simp
  | inSecond first inner rest ih =>
      rw [ExprPlace.fill, ExprPlace.fill, ofTagged, ofTagged, ← ih]
      simp
  | inRest first second before inner after ih =>
      rw [ExprPlace.fill, ExprPlace.fill, ofTagged, ofTagged, ofTaggedItems_eq, ofTaggedItems_eq,
        ← ih]
      simp

/-- A selection tells the literal of a value that is chosen. -/
theorem ofSelection_choose_eq_iff (s : Selection) (d : Dimension) (before after : List Value)
    (v w : Value) :
    ofSelection (s.choose (before ++ v :: after) d)
        = ofSelection (s.choose (before ++ w :: after) d)
      ↔ ofValueIn true v = ofValueIn true w := by
  rw [← ofItems_eq_iff true before after]
  cases d with
  | types => simp [Selection.choose, ofSelection, ofChosen]
  | sectors => simp [Selection.choose, ofSelection, ofChosen]
  | statuses => simp [Selection.choose, ofSelection, ofChosen]
  | tags => simp [Selection.choose, ofSelection, ofChosen]

end Literal

namespace Value

/-! ### Parts that can be written -/

/-- Entries with text keys can be written when the value of each of them can. -/
theorem areNamedWritable_eq (entries : List (Text × Value)) :
    areNamedWritable entries = entries.all fun entry => isWritableIn true entry.2 := by
  induction entries with
  | nil => rfl
  | cons entry rest ih => rw [areNamedWritable, ih, List.all_cons]

/-- Profiles can be written when each of them can. -/
theorem areProfilesWritable_eq (profiles : List (List (Text × Value))) :
    areProfilesWritable profiles = profiles.all areNamedWritable := by
  induction profiles with
  | nil => rfl
  | cons profile rest ih => rw [areProfilesWritable, ih, List.all_cons]

/-- Expressions can be written when each of them can. -/
theorem areExprsWritable_eq (inRecord : Bool) (es : List Expr) :
    areExprsWritable inRecord es = es.all (isExprWritable inRecord) := by
  induction es with
  | nil => rfl
  | cons e es ih => rw [areExprsWritable, ih, List.all_cons]

/-- Items can be written when the one at a place among them and the others can. -/
theorem areWritable_fill (inRecord : Bool) (before after : List Value) (v : Value) :
    areWritable inRecord (before ++ v :: after)
      = (areWritable inRecord before &&
        (isWritableIn inRecord v && areWritable inRecord after)) := by
  rw [areWritable_eq, areWritable_eq, areWritable_eq, List.all_append, List.all_cons]

/-- Whether an expression can be written depends on whether the value at a place in it can, when the
rest of it is the same. -/
theorem isExprWritable_fill_congr {inRecord : Bool} (place : ExprPlace) {v w : Value}
    (h : isWritableIn inRecord v = isWritableIn inRecord w) :
    isExprWritable inRecord (place.fill v) = isExprWritable inRecord (place.fill w) := by
  induction place with
  | here path operator => exact h
  | inFirst inner second rest ih =>
      rw [ExprPlace.fill, ExprPlace.fill, isExprWritable, isExprWritable, ih]
  | inSecond first inner rest ih =>
      rw [ExprPlace.fill, ExprPlace.fill, isExprWritable, isExprWritable, ih]
  | inRest first second before inner after ih =>
      rw [ExprPlace.fill, ExprPlace.fill, isExprWritable, isExprWritable, areExprsWritable_eq,
        areExprsWritable_eq, List.all_append, List.all_append, List.all_cons, List.all_cons, ih]

end Value

open Literal Value

namespace ValueStep

/-- A step tells the literals of two values at its end apart exactly when they have different
literals, inside a record if the step leads into one. -/
theorem ofValueIn_fill_eq_iff (inRecord : Bool) (step : ValueStep) (v w : Value) :
    ofValueIn inRecord (step.fill v) = ofValueIn inRecord (step.fill w)
      ↔ ofValueIn (inRecord || step.isRecord) v = ofValueIn (inRecord || step.isRecord) w := by
  cases step with
  | item before after =>
      rw [fill, fill, isRecord, Bool.or_false, ofValueIn, ofValueIn, Literal.list.injEq,
        ofItems_eq_iff]
  | tupleItem before after =>
      rw [fill, fill, isRecord, Bool.or_false, ofValueIn, ofValueIn, Literal.list.injEq,
        ofItems_eq_iff]
  | entry before key after =>
      rw [fill, fill, isRecord, Bool.or_false, ofValueIn, ofValueIn, Literal.object.injEq,
        ofEntries_eq, ofEntries_eq, List.map_append, List.map_append, List.map_cons, List.map_cons,
        append_cons_eq_iff, Prod.mk.injEq, and_iff_right rfl]
  | compared place =>
      rw [fill, fill, isRecord, Bool.or_false, ofValueIn, ofValueIn]
      -- Inside a record an expression is written by its kind, outside as its where clause.
      cases inRecord with
      | true => exact (Literal.object.injEq ..).to_iff.trans (ofTagged_fill_eq_iff place v w)
      | false => exact ofWhere_fill_eq_iff place v w
  | chosen s d before after =>
      rw [fill, fill, isRecord, Bool.or_true, ofValueIn, ofValueIn, Literal.object.injEq,
        ofSelection_choose_eq_iff]
  | binding r before name after =>
      rw [fill, fill, isRecord, Bool.or_true, ofValueIn, ofValueIn, Literal.object.injEq,
        ← ofNamed_eq_iff before name after]
      simp [ofRequest]
  | profile p others before name after more =>
      rw [fill, fill, isRecord, Bool.or_true, ofValueIn, ofValueIn, Literal.object.injEq,
        ← ofNamed_eq_iff before name after]
      simp [ofPage, ofProfiles_eq]

/-- Whether the value at the start of a step can be written depends on whether the one at its end
can. -/
theorem isWritableIn_fill_congr {inRecord : Bool} (step : ValueStep) {v w : Value}
    (h : isWritableIn (inRecord || step.isRecord) v = isWritableIn (inRecord || step.isRecord) w) :
    isWritableIn inRecord (step.fill v) = isWritableIn inRecord (step.fill w) := by
  -- Steps of values keep the mode, steps into records change it to the one of records. In both, the
  -- items around the place are the same.
  cases step with
  | item before after =>
      rw [isRecord, Bool.or_false] at h
      rw [fill, fill, isWritableIn, isWritableIn, areWritable_fill, areWritable_fill, h]
  | tupleItem before after =>
      rw [isRecord, Bool.or_false] at h
      rw [fill, fill, isWritableIn, isWritableIn, areWritable_fill, areWritable_fill, h]
  | entry before key after =>
      rw [isRecord, Bool.or_false] at h
      simp only [fill, isWritableIn, areEntriesWritable_eq, List.all_append, List.all_cons, h]
  | compared place =>
      rw [isRecord, Bool.or_false] at h
      rw [fill, fill, isWritableIn, isWritableIn, isExprWritable_fill_congr place h]
  | chosen s d before after =>
      rw [isRecord, Bool.or_true] at h
      cases d <;>
        simp only [fill, Selection.choose, isWritableIn, isChosenWritable, areWritable_fill, h]
  | binding r before name after =>
      rw [isRecord, Bool.or_true] at h
      simp only [fill, isWritableIn, areNamedWritable_eq, List.all_append, List.all_cons, h]
  | profile p others before name after more =>
      rw [isRecord, Bool.or_true] at h
      simp only [fill, isWritableIn, areProfilesWritable_eq, areNamedWritable_eq, List.all_append,
        List.all_cons, h]

end ValueStep

/-! ### Along the way -/

/-- The first step of a way is the outermost one, so an induction on the way goes from the outside
in. -/
theorem fill_cons (step : ValueStep) (steps : List ValueStep) (v : Value) :
    fill (step :: steps) v = step.fill (fill steps v) := rfl

/-- A way tells the literals of two values at its end apart exactly when they have different
literals, inside a record if the way leads into one. -/
theorem ofValueIn_fill_eq_iff (inRecord : Bool) (steps : List ValueStep) (v w : Value) :
    ofValueIn inRecord (fill steps v) = ofValueIn inRecord (fill steps w)
      ↔ ofValueIn (inRecord || entersRecord steps) v
        = ofValueIn (inRecord || entersRecord steps) w := by
  induction steps generalizing inRecord with
  | nil =>
      rw [entersRecord, List.any_nil, Bool.or_false, fill, fill, List.foldr_nil, List.foldr_nil]
  | cons step steps ih =>
      rw [fill_cons, fill_cons, step.ofValueIn_fill_eq_iff, ih, Bool.or_assoc, entersRecord,
        entersRecord, List.any_cons]

/-- Whether a value can be written depends on whether the one at the end of a way can. -/
theorem isWritableIn_fill_congr {inRecord : Bool} (steps : List ValueStep) {v w : Value}
    (h : isWritableIn (inRecord || entersRecord steps) v
      = isWritableIn (inRecord || entersRecord steps) w) :
    isWritableIn inRecord (fill steps v) = isWritableIn inRecord (fill steps w) := by
  induction steps generalizing inRecord with
  | nil => rwa [entersRecord, List.any_nil, Bool.or_false] at h
  | cons step steps ih =>
      rw [entersRecord, List.any_cons, ← Bool.or_assoc] at h
      exact step.isWritableIn_fill_congr (ih h)

/-- Values that are written alike at the end of a way can be exchanged there. -/
theorem toLiteral_fill_congr (steps : List ValueStep) {v w : Value}
    (hliteral : ofValueIn (entersRecord steps) v = ofValueIn (entersRecord steps) w)
    (hwritable : isWritableIn (entersRecord steps) v = isWritableIn (entersRecord steps) w) :
    (fill steps v).toLiteral = (fill steps w).toLiteral := by
  have hsame : ofValue (fill steps v) = ofValue (fill steps w) :=
    (ofValueIn_fill_eq_iff false steps v w).mpr hliteral
  have hboth : (fill steps v).isWritable = (fill steps w).isWritable :=
    @isWritableIn_fill_congr false steps v w hwritable
  rw [toLiteral, toLiteral, hsame, hboth]

/-- Values that are written apart at the end of a way cannot be exchanged there. The first one has
to be written for this: two failures are alike. -/
theorem toLiteral_fill_ne (steps : List ValueStep) {v w : Value}
    (hliteral : ofValueIn (entersRecord steps) v ≠ ofValueIn (entersRecord steps) w)
    (hwritable : (fill steps v).isWritable = true) :
    (fill steps v).toLiteral ≠ (fill steps w).toLiteral := by
  intro heq
  rw [toLiteral, toLiteral, if_pos hwritable] at heq
  split at heq
  · exact hliteral ((ofValueIn_fill_eq_iff false steps v w).mp (Except.ok.inj heq))
  · cases heq

/-! ### Where expressions -/

namespace Expr

mutual

/-- Outside of records an expression is written as its where mapping is. By induction on the
expression, together with the conditions of a conjunction. -/
theorem ofValueIn_toWhere : ∀ e : Expr, ofValueIn false e.toWhere = ofWhere e
  | .field path operator value => by
      have hoperator : (Value.text operator).plainString = operator := rfl
      rw [toWhere, ofValueIn_nested, ofWhere, ofValueIn, ofEntries, ofEntries, hoperator]
  | .all first second rest => by
      show Literal.object [("_and", .list (ofValueIn false first.toWhere ::
        ofValueIn false second.toWhere :: ofItems false (toWheres rest)))] = _
      rw [ofValueIn_toWhere first, ofValueIn_toWhere second, ofItems_toWheres rest, ofWhere]
  | .everything => rfl

/-- Outside of records expressions are written as their where mappings are. -/
theorem ofItems_toWheres : ∀ es : List Expr, ofItems false (toWheres es) = ofWheres es
  | [] => rfl
  | e :: es => by
      rw [toWheres, ofItems, ofWheres, ofValueIn_toWhere e, ofItems_toWheres es]

end

mutual

/-- The tagged mapping of an expression is written as the expression is inside a record. A value
inside a tagged mapping stands in a record, too. -/
theorem ofValueIn_tagged : ∀ e : Expr, ofValueIn true e.tagged = .object (ofTagged e)
  | .field path operator value => by
      rw [tagged, ofValueIn_ofFields, ofTagged]
      rfl
  | .all first second rest => by
      rw [tagged, ofValueIn_ofFields, ofTagged, ← ofValueIn_tagged first,
        ← ofValueIn_tagged second, ← ofItems_taggedItems rest]
      rfl
  | .everything => by
      rw [tagged, ofValueIn_ofFields, ofTagged]
      rfl

/-- The tagged mappings of expressions are written as the expressions are inside a record. -/
theorem ofItems_taggedItems : ∀ es : List Expr,
    ofItems true (taggedItems es) = ofTaggedItems es
  | [] => rfl
  | e :: es => by
      rw [taggedItems, ofItems, ofTaggedItems, ofValueIn_tagged e, ofItems_taggedItems es]

end

mutual

/-- An expression can be written when its where mapping can. -/
theorem isWritableIn_toWhere (inRecord : Bool) : ∀ e : Expr,
    isWritableIn inRecord e.toWhere = isExprWritable inRecord e
  | .field path operator value => by
      rw [toWhere, isWritableIn_nested, isWritableIn, areEntriesWritable, areEntriesWritable,
        Bool.and_true, isExprWritable]
  | .all first second rest => by
      rw [toWhere, isWritableIn, areEntriesWritable, areEntriesWritable, Bool.and_true,
        isWritableIn, areWritable, areWritable, isWritableIn_toWhere inRecord first,
        isWritableIn_toWhere inRecord second, areWritable_toWheres inRecord rest, isExprWritable,
        Bool.and_assoc]
  | .everything => rfl

/-- Expressions can be written when their where mappings can. -/
theorem areWritable_toWheres (inRecord : Bool) : ∀ es : List Expr,
    areWritable inRecord (toWheres es) = areExprsWritable inRecord es
  | [] => rfl
  | e :: es => by
      rw [toWheres, areWritable, areExprsWritable, isWritableIn_toWhere inRecord e,
        areWritable_toWheres inRecord es]

end

mutual

/-- An expression can be written when its tagged mapping can. -/
theorem isWritableIn_tagged (inRecord : Bool) : ∀ e : Expr,
    isWritableIn inRecord e.tagged = isExprWritable inRecord e
  | .field path operator value => by
      show (true && (true && (true && (isWritableIn inRecord value && true)))) = _
      rw [isExprWritable, Bool.and_true]
      rfl
  | .all first second rest => by
      show (true && ((isWritableIn inRecord first.tagged && (isWritableIn inRecord second.tagged &&
        areWritable inRecord (taggedItems rest))) && true)) = _
      rw [isWritableIn_tagged inRecord first, isWritableIn_tagged inRecord second,
        areWritable_taggedItems inRecord rest, isExprWritable, Bool.and_true, Bool.true_and,
        Bool.and_assoc]
  | .everything => rfl

/-- Expressions can be written when their tagged mappings can. -/
theorem areWritable_taggedItems (inRecord : Bool) : ∀ es : List Expr,
    areWritable inRecord (taggedItems es) = areExprsWritable inRecord es
  | [] => rfl
  | e :: es => by
      rw [taggedItems, areWritable, areExprsWritable, isWritableIn_tagged inRecord e,
        areWritable_taggedItems inRecord es]

end

/-- The number of fields of an object. -/
def fieldCount : Literal → Nat
  | .object fields => fields.length
  | _ => 0

/-- Inside a record an expression is never written as its where mapping is: the two do not even have
as many fields. -/
theorem ofTagged_ne_toWhere (e : Expr) :
    Literal.object (ofTagged e) ≠ ofValueIn true e.toWhere := by
  intro heq
  have hcount := congrArg fieldCount heq
  -- A tagged object has a field for its kind beside its data; a where clause has one field at most.
  cases e with
  | field path operator value =>
      rw [toWhere, ofValueIn_nested] at hcount
      cases hsteps : pathSteps path with
      | nil =>
          rw [hsteps] at hcount
          exact absurd (show 4 = 1 from hcount) (by decide)
      | cons step others =>
          rw [hsteps] at hcount
          exact absurd (show 4 = 1 from hcount) (by decide)
  | all first second rest => exact absurd (show 2 = 1 from hcount) (by decide)
  | everything => exact absurd hcount (by decide)

/-- **The way to an expression decides how it is written.** Let an expression stand at the end of a
way through lists, tuples, mappings, predicates and records.

* When the way leads into no record but where expressions, the expression can be replaced by its
  where mapping.
* Otherwise it can be replaced by its tagged mapping.
* It can then not be replaced by its where mapping, unless the value cannot be written at all. -/
theorem toLiteral_fill (steps : List ValueStep) (e : Expr) :
    (entersRecord steps = false →
      (fill steps (.expr e)).toLiteral = (fill steps e.toWhere).toLiteral) ∧
    (entersRecord steps = true →
      (fill steps (.expr e)).toLiteral = (fill steps e.tagged).toLiteral) ∧
    (entersRecord steps = true → (fill steps (.expr e)).isWritable = true →
      (fill steps (.expr e)).toLiteral ≠ (fill steps e.toWhere).toLiteral) := by
  refine ⟨fun henters => ?_, fun henters => ?_, fun henters hwritable => ?_⟩
  -- Outside of records an expression is written as its where mapping is, inside as its tagged
  -- mapping is, and what stands at the end of the way decides.
  · refine toLiteral_fill_congr steps ?_ (isWritableIn_toWhere _ e).symm
    rw [henters]
    exact (ofValueIn_toWhere e).symm
  · refine toLiteral_fill_congr steps ?_ (isWritableIn_tagged _ e).symm
    rw [henters]
    exact (ofValueIn_tagged e).symm
  · refine toLiteral_fill_ne steps ?_ hwritable
    rw [henters]
    exact ofTagged_ne_toWhere e

/-- The main fact at a predicate that stands in the value of another one, a condition of a
conjunction in a list under a key, and at one that is chosen in a selection. -/
theorem toLiteral_fill_twoWays :
    let e : Expr := .field "name" "_eq" (.text "x")
    let outside : List ValueStep := [.entry [] (.text "where") [], .item [.null] [],
      .compared (.inSecond .everything (.here "root.parent" "_in") [])]
    let inside : List ValueStep := [.tupleItem [] [], .chosen {} .types [] [.int 1]]
    (entersRecord outside = false ∧
      (fill outside (.expr e)).toLiteral = (fill outside e.toWhere).toLiteral) ∧
    (entersRecord inside = true ∧ (fill inside (.expr e)).isWritable = true ∧
      (fill inside (.expr e)).toLiteral = (fill inside e.tagged).toLiteral ∧
      (fill inside (.expr e)).toLiteral ≠ (fill inside e.toWhere).toLiteral) := by
  intro e outside inside
  exact ⟨⟨rfl, (toLiteral_fill outside e).1 rfl⟩, rfl, rfl, (toLiteral_fill inside e).2.1 rfl,
    (toLiteral_fill inside e).2.2 rfl rfl⟩

/-- **An expression that is chosen in a selection is not written as its where clause.** The
expression that every profile meets has the empty object as its clause, and is written with its
kind. -/
theorem toLiteral_inSelection :
    let chosen : Value := .selection { types := some [.expr .everything] }
    let clause : Value := .selection { types := some [Expr.everything.toWhere] }
    let others := ", sectors: null, statuses: null, tags: null, search: null \x7d"
    chosen.literalText = "\x7b types: [\x7b kind: \"empty\" \x7d]" ++ others ∧
    clause.literalText = "\x7b types: [\x7b\x7d]" ++ others ∧
    chosen.toLiteral ≠ clause.toLiteral :=
  ⟨by decide, by decide,
    toLiteral_fill_ne [.chosen {} .types [] []] (ofTagged_ne_toWhere .everything) rfl⟩

end Expr

end FacetSearch
