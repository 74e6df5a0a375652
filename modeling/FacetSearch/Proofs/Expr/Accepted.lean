import FacetSearch.Expr.Check
import FacetSearch.Proofs.Catalog.Raw
import FacetSearch.Proofs.Checked
import Mathlib.Data.List.Forall2

/-!
# `FacetSearch.Proofs.Expr.Accepted`: what the check of expressions accepts

An expression is given as a tree of values, of which some are tagged mappings and some expressions
already. `Value.conditions?` is what such a value joins, whichever of the two it is.

The check goes down the tree, and a limit bounds how many conjunctions it goes into. One step of it
says it all: a mapping that stands for a conjunction is accepted exactly when it is not too deep and
all its conditions are accepted one level further in, and there are two at least
(`Expr.check_map_eq_ok_iff`). What is accepted inside some conjunctions is accepted inside fewer
(`Expr.check_mono`), so the conditions of what is accepted are accepted by themselves
(`Expr.forall₂_of_check`). The issues of a condition are issues of the whole, seen from further out
(`Expr.check_error_of_conditions?`), and whatever is refused is refused with an issue
(`Expr.explains_check`).
-/

set_option autoImplicit false

namespace FacetSearch

open Checked

/-! ### Trees of conditions -/

/-- The conditions of an expression, if it is a conjunction. -/
def Expr.conditions? : Expr → Option (List Expr)
  | .all first second rest => some (first :: second :: rest)
  | _ => none

namespace Value

/-- The items of a value that can list conditions. -/
def collected? : Value → Option (List Value)
  | .list items => some items
  | .tuple items => some items
  | .set _ items => some items
  | _ => none

/-- The conditions of a value that stands for a conjunction. A tagged mapping without a list of
conditions has none. -/
def conditions? : Value → Option (List Value)
  | .expr e => e.conditions?.map fun es => es.map .expr
  | .map entries =>
      if (get? entries "kind").bind text? = some ("and" : Text) then
        some (((get? entries "conditions").bind collected?).getD [])
      else none
  | _ => none

end Value

namespace Expr

/-- A conjunction has two conditions at least, by the way it is made up: two of them have places of
their own, and the rest is a list. -/
theorem two_le_of_conditions? {e : Expr} {es : List Expr} (h : e.conditions? = some es) :
    2 ≤ es.length := by
  cases e with
  | all first second rest =>
      cases h
      simp
  | _ => cases h

/-! ### One step of the check -/

variable {limit depth : Nat}

/-- A list of conditions makes a conjunction exactly when there are two at least, and the
conjunction has these conditions. The number of conditions is not said here, as it follows from
there being a conjunction with them. -/
theorem ofConditions_eq_ok_iff {es : List Expr} {e : Expr} :
    ofConditions es = .ok e ↔ e.conditions? = some es := by
  match es with
  | [] => cases e <;> simp [ofConditions, fault, conditions?]
  | [f] => cases e <;> simp [ofConditions, fault, conditions?]
  | first :: second :: rest =>
      cases e <;> simp [ofConditions, conditions?, eq_comm]

/-- Conditions are accepted when each of them is. Positions are for the issues alone and do not
matter where there are none. -/
theorem checkEach_eq_ok_iff (position : Nat) (values : List Value) (es : List Expr) :
    checkEach limit depth position values = .ok es ↔
      List.Forall₂ (fun v e => check limit depth v = .ok e) values es := by
  induction values generalizing position es with
  | nil => simp [checkEach, eq_comm]
  | cons value rest ih =>
      rw [checkEach, map_eq_ok_iff, List.forall₂_cons_left_iff]
      constructor
      · rintro ⟨⟨f, fs⟩, hboth, rfl⟩
        obtain ⟨hf, hfs⟩ := both_eq_ok_iff.mp hboth
        exact ⟨f, fs, under_eq_ok_iff.mp hf, (ih _ _).mp hfs, rfl⟩
      · rintro ⟨f, fs, hf, hfs, rfl⟩
        exact ⟨(f, fs), both_eq_ok_iff.mpr ⟨under_eq_ok_iff.mpr hf, (ih _ _).mpr hfs⟩, rfl⟩

/-- The conditions of a mapping stand under the first entry that has their name. The check looks for
this entry itself, so that it goes down the structure of the mapping. -/
theorem checkConditionsField_eq (entries : List (Value × Value)) :
    checkConditionsField limit depth entries
      = ((Value.get? entries "conditions").elim (fault .missing)
          (checkConditions limit depth)).under (.name "conditions") := by
  induction entries with
  | nil => rfl
  | cons entry rest ih =>
      rw [checkConditionsField, ih, Value.get?_cons]
      by_cases hkey : entry.1.text? = some ("conditions" : Text) <;> simp [hkey]

/-- A conjunction is entered when one more is not too deep. Where it is too deep, its conditions are
not looked at. -/
theorem enter_eq_ok_iff {c : Checked Expr} {e : Expr} :
    enter limit depth c = .ok e ↔ depth + 1 < limit ∧ c = .ok e := by
  rw [enter, under_eq_ok_iff]
  split <;> simp [*, fault]

/-- A check of conditions, as the conjunction reports it. -/
def inConjunction (limit depth : Nat) (c : Checked Expr) : Checked Expr :=
  enter limit depth (c.under (.name "conditions"))

/-- Conditions that are accepted make the conjunction accepted, if it is not too deep. -/
theorem inConjunction_eq_ok_iff {c : Checked Expr} {e : Expr} :
    inConjunction limit depth c = .ok e ↔ depth + 1 < limit ∧ c = .ok e := by
  rw [inConjunction, enter_eq_ok_iff, under_eq_ok_iff]

/-- An expression is accepted as itself. Only the limit can refuse it, where it is a conjunction,
and then for the place in which it stands and not for its own depth. -/
theorem check_expr_eq_ok_iff {e f : Expr} :
    check limit depth (.expr e) = .ok f ↔ (e.conditions?.isSome → depth + 1 < limit) ∧ e = f := by
  cases e with
  | all =>
      rw [check, enter_eq_ok_iff]
      simp [conditions?]
  | _ => simp [check, conditions?]

/-- A mapping that is tagged as a conjunction is accepted as its conditions are. The check reads the
tag as a kind, which the text of the tag decides. -/
theorem check_of_kind {entries : List (Value × Value)}
    (h : (Value.get? entries "kind").bind Value.text? = some ("and" : Text)) :
    check limit depth (.map entries)
      = inConjunction limit depth ((Value.get? entries "conditions").elim (fault .missing)
          (checkConditions limit (depth + 1))) := by
  obtain ⟨tag, htag, htext⟩ := Option.bind_eq_some_iff.mp h
  have hkind : Kind.ofValue? tag = some .conjunction := by
    simp [Kind.ofValue?, htext]
  rw [check, htag]
  simp only [hkind, checkConditionsField_eq]
  rfl

/-- A value that lists no conditions is refused, whether it is a record or anything else. -/
theorem noConditions_ne_ok (v : Value) (e : Expr) : noConditions v ≠ .ok e := by
  rw [noConditions]
  cases v.fields? <;> simp [fault]

/-- A value that lists conditions has them checked one by one. -/
theorem checkConditions_of_collected? {v : Value} {items : List Value}
    (h : v.collected? = some items) :
    checkConditions limit depth v = (checkEach limit depth 0 items).bind ofConditions := by
  cases v <;> cases h <;> rfl

/-- A value that lists nothing is refused as conditions. -/
theorem checkConditions_of_not_collected? {v : Value} (h : v.collected? = none) :
    checkConditions limit depth v = noConditions v := by
  cases v <;> first | rfl | cases h

/-- A mapping that is tagged as a conjunction has its conditions checked one by one, or it has none
and is refused. The second case is that of a mapping without conditions, or with something that
lists none. -/
theorem check_of_conditions? {entries : List (Value × Value)} {items : List Value}
    (h : (Value.map entries).conditions? = some items) :
    check limit depth (.map entries)
        = inConjunction limit depth ((checkEach limit (depth + 1) 0 items).bind ofConditions) ∨
      (items = [] ∧ ∀ e, check limit depth (.map entries) ≠ .ok e) := by
  rw [Value.conditions?] at h
  split at h
  · rename_i hkind
    rw [check_of_kind hkind]
    -- Without conditions, or with something that lists none, the conjunction stands for no items,
    -- and nothing is accepted for it.
    cases hgiven : Value.get? entries "conditions" with
    | none =>
        refine .inr ⟨by simpa [hgiven] using h.symm, fun e => ?_⟩
        rw [Ne, inConjunction_eq_ok_iff]
        rintro ⟨-, ⟨⟩⟩
    | some given =>
        rw [hgiven] at h
        rw [Option.elim_some]
        cases hitems : given.collected? with
        | some collected =>
            obtain rfl : collected = items := by simpa [hitems] using h
            exact .inl (congrArg _ (checkConditions_of_collected? hitems))
        | none =>
            refine .inr ⟨by simpa [hitems] using h.symm, fun e => ?_⟩
            rw [Ne, inConjunction_eq_ok_iff, checkConditions_of_not_collected? hitems]
            exact fun hok => noConditions_ne_ok given e hok.2
  · cases h

/-- **One step of the check.** A mapping that stands for a conjunction is accepted as an expression
exactly when it is not too deep and its conditions are accepted, one level further in, as the
conditions of this expression. -/
theorem check_map_eq_ok_iff {entries : List (Value × Value)} {items : List Value}
    (h : (Value.map entries).conditions? = some items) (e : Expr) :
    check limit depth (.map entries) = .ok e ↔
      depth + 1 < limit ∧ ∃ es, e.conditions? = some es ∧
        List.Forall₂ (fun w f => check limit (depth + 1) w = .ok f) items es := by
  rcases check_of_conditions? h with hcheck | ⟨rfl, hrefused⟩
  · rw [hcheck, inConjunction_eq_ok_iff, bind_eq_ok_iff]
    simp only [checkEach_eq_ok_iff, ofConditions_eq_ok_iff]
    exact and_congr_right fun _ => exists_congr fun es => And.comm
  · refine iff_of_false (hrefused e) ?_
    rintro ⟨-, es, hes, hnone⟩
    cases hnone
    exact absurd (two_le_of_conditions? hes) (by simp)

mutual

/-- What is accepted inside some conjunctions is accepted inside fewer. The check counts the
conjunctions around a value, so the same value has more room where there are fewer. -/
theorem check_mono : ∀ (v : Value) {shallow depth : Nat} {e : Expr}, shallow ≤ depth →
    check limit depth v = .ok e → check limit shallow v = .ok e
  | .expr f, _, _, _, hle, h => by
      rw [check_expr_eq_ok_iff] at h ⊢
      exact ⟨fun hjoins => Nat.lt_of_le_of_lt (Nat.succ_le_succ hle) (h.1 hjoins), h.2⟩
  | .map entries, _, _, _, hle, h => by
      rw [check] at h ⊢
      split at h
      · cases h
      · split at h
        · exact h
        -- Only a conjunction counts towards the depth, and its conditions are checked one deeper on
        -- both sides.
        · rw [enter_eq_ok_iff] at h ⊢
          exact ⟨Nat.lt_of_le_of_lt (Nat.succ_le_succ hle) h.1,
            checkConditionsField_mono entries (Nat.succ_le_succ hle) h.2⟩
        · exact h
        · cases h
  | .null, _, _, _, _, h | .bool _, _, _, _, _, h | .int _, _, _, _, _, h
  | .float _, _, _, _, _, h | .text _, _, _, _, _, h | .dimension _, _, _, _, _, h
  | .bytes _, _, _, _, _, h | .decimal _, _, _, _, _, h | .foreign _, _, _, _, _, h
  | .list _, _, _, _, _, h | .tuple _, _, _, _, _, h | .set _ _, _, _, _, _, h
  | .choice _, _, _, _, _, h | .catalog _, _, _, _, _, h | .counts _, _, _, _, _, h
  | .config _, _, _, _, _, h | .selection _, _, _, _, _, h | .request _, _, _, _, _, h
  | .page _, _, _, _, _, h => by cases h

/-- Fields that are accepted inside some conjunctions are accepted inside fewer. -/
theorem checkConditionsField_mono : ∀ (entries : List (Value × Value)) {shallow depth : Nat}
    {e : Expr}, shallow ≤ depth → checkConditionsField limit depth entries = .ok e →
    checkConditionsField limit shallow entries = .ok e
  | [], _, _, _, _, h => by cases h
  | (key, value) :: rest, _, _, _, hle, h => by
      rw [checkConditionsField] at h ⊢
      -- The field of the conditions is found, or the search goes on in the entries behind.
      split at h
      · rename_i hkey
        rw [under_eq_ok_iff] at h
        rw [if_pos hkey, under_eq_ok_iff]
        exact checkConditions_mono value hle h
      · rename_i hkey
        rw [if_neg hkey]
        exact checkConditionsField_mono rest hle h

/-- Conditions that are accepted inside some conjunctions are accepted inside fewer. -/
theorem checkConditions_mono : ∀ (v : Value) {shallow depth : Nat} {e : Expr}, shallow ≤ depth →
    checkConditions limit depth v = .ok e → checkConditions limit shallow v = .ok e
  | .list items, _, _, _, hle, h | .tuple items, _, _, _, hle, h
  | .set _ items, _, _, _, hle, h => by
      -- The conditions are accepted one by one, so each of them has more room.
      rw [checkConditions, bind_eq_ok_iff] at h ⊢
      obtain ⟨es, hes, he⟩ := h
      exact ⟨es, checkEach_mono items 0 hle hes, he⟩
  | .null, _, _, _, _, h | .bool _, _, _, _, _, h | .int _, _, _, _, _, h
  | .float _, _, _, _, _, h | .text _, _, _, _, _, h | .dimension _, _, _, _, _, h
  | .bytes _, _, _, _, _, h | .decimal _, _, _, _, _, h | .foreign _, _, _, _, _, h
  | .map _, _, _, _, _, h | .choice _, _, _, _, _, h | .catalog _, _, _, _, _, h
  | .counts _, _, _, _, _, h | .config _, _, _, _, _, h | .selection _, _, _, _, _, h
  | .expr _, _, _, _, _, h | .request _, _, _, _, _, h | .page _, _, _, _, _, h => by
      rw [checkConditions_of_not_collected? rfl] at h
      exact absurd h (noConditions_ne_ok _ _)

/-- Conditions that are accepted one by one inside some conjunctions are accepted inside fewer. -/
theorem checkEach_mono : ∀ (values : List Value) (position : Nat) {shallow depth : Nat}
    {es : List Expr}, shallow ≤ depth → checkEach limit depth position values = .ok es →
    checkEach limit shallow position values = .ok es
  | [], _, _, _, _, _, h => h
  | value :: rest, _, _, _, _, hle, h => by
      rw [checkEach_eq_ok_iff, List.forall₂_cons_left_iff] at h ⊢
      obtain ⟨f, fs, hf, hfs, rfl⟩ := h
      exact ⟨f, fs, check_mono value hle hf, (checkEach_eq_ok_iff 0 _ _).mp
        (checkEach_mono rest 0 hle ((checkEach_eq_ok_iff 0 _ _).mpr hfs)), rfl⟩

end

/-- A record has fields. -/
theorem fields?_ne_nil (v : Value) : v.fields? ≠ some [] := by
  cases v with
  | choice row => cases row <;> simp [Value.fields?]
  | expr e => cases e <;> simp [Value.fields?]
  | _ => simp [Value.fields?]

/-- A value that lists no conditions is refused with an issue. A record is refused with one issue
for each of its fields, and it has some. -/
theorem explains_noConditions (v : Value) : (noConditions v).Explains := by
  rw [noConditions]
  cases hfields : v.fields? with
  | none => exact explains_fault .notList
  | some fields =>
      rintro _ ⟨⟩ hnil
      rw [List.mapIdx_eq_nil_iff] at hnil
      exact fields?_ne_nil v (hnil ▸ hfields)

/-- A list of too few conditions is refused with an issue. -/
theorem explains_ofConditions (es : List Expr) : (ofConditions es).Explains := by
  match es with
  | [] => exact explains_fault .tooFewConditions
  | [_] => exact explains_fault .tooFewConditions
  | _ :: _ :: _ => exact explains_ok _

/-- The fields of a predicate are refused with an issue. -/
theorem explains_checkField (given : Given) : (checkField given).Explains := by
  have hpath := given.explains_required "path" Value.explains_checkText
  have hoperator := given.explains_required "operator" Value.explains_checkText
  have hvalue := given.explains_withDefault "value" Value.null fun v => explains_ok v
  exact ((given.explains_constant "kind" "field").both (hpath.both (hoperator.both hvalue))).map _

/-- A conjunction that is refused is refused with an issue. -/
theorem explains_enter {c : Checked Expr} (depth : Nat) (h : c.Explains) :
    (enter limit depth c).Explains := by
  rw [enter]
  split
  · exact h.under (.name "and")
  · exact (explains_fault .nestedTooDeep).under (.name "and")

mutual

/-- A value that is no expression is refused with an issue. The induction follows the check, which
calls itself through the fields of a mapping, the value under one of them and the items of this. -/
theorem explains_check : ∀ (v : Value) (depth : Nat), (check limit depth v).Explains
  | .expr e, depth => by
      cases e with
      | all =>
          rw [check]
          exact explains_enter depth (explains_ok _)
      | field => exact explains_ok _
      | everything => exact explains_ok _
  | .map entries, depth => by
      rw [check]
      split
      · exact explains_fault .missingKind
      · split
        · exact (explains_checkField entries).under (.name "field")
        -- A conjunction past the limit is refused with an issue of its own.
        · exact explains_enter depth (explains_checkConditionsField entries (depth + 1))
        · exact ((Given.explains_constant entries "kind" "empty").map _).under (.name "empty")
        · exact explains_fault .unknownKind
  | .null, _ | .bool _, _ | .int _, _ | .float _, _ | .text _, _ | .dimension _, _ | .bytes _, _
  | .decimal _, _ | .foreign _, _ | .list _, _ | .tuple _, _ | .set _ _, _ | .choice _, _
  | .catalog _, _ | .counts _, _ | .config _, _ | .selection _, _ | .request _, _
  | .page _, _ => explains_fault _

/-- Fields without acceptable conditions are refused with an issue. -/
theorem explains_checkConditionsField : ∀ (entries : List (Value × Value)) (depth : Nat),
    (checkConditionsField limit depth entries).Explains
  | [], _ => (explains_fault .missing).under (.name "conditions")
  | (key, value) :: rest, depth => by
      rw [checkConditionsField]
      split
      · exact (explains_checkConditions value depth).under (.name "conditions")
      · exact explains_checkConditionsField rest depth

/-- A value without acceptable conditions is refused with an issue. -/
theorem explains_checkConditions : ∀ (v : Value) (depth : Nat),
    (checkConditions limit depth v).Explains
  | .list values, depth | .tuple values, depth | .set _ values, depth =>
      (explains_checkEach values depth 0).bind explains_ofConditions
  | .null, _ | .bool _, _ | .int _, _ | .float _, _ | .text _, _ | .dimension _, _ | .bytes _, _
  | .decimal _, _ | .foreign _, _ | .map _, _ | .choice _, _ | .catalog _, _ | .counts _, _
  | .config _, _ | .selection _, _ | .expr _, _ | .request _, _ | .page _, _ => by
      rw [checkConditions_of_not_collected? rfl]
      exact explains_noConditions _

/-- Conditions of which one is not acceptable are refused with an issue. -/
theorem explains_checkEach : ∀ (values : List Value) (depth position : Nat),
    (checkEach limit depth position values).Explains
  | [], _, _ => explains_ok []
  | value :: rest, depth, position =>
      (((explains_check value depth).under (.index position)).both
        (explains_checkEach rest depth (position + 1))).map _

end

end Expr

end FacetSearch
