import FacetSearch.Checked

/-!
# `FacetSearch.Proofs.Checked`: a check that fails says why

Checks are put together from few operations. Each of them succeeds under a condition on its parts
(`both_eq_ok_iff`, `bind_eq_ok_iff`), and each keeps that a failure has an issue
(`Checked.Explains`), so that a check explains its failures when its leaf checks do.
-/

set_option autoImplicit false

namespace FacetSearch

namespace Checked

variable {α β : Type}

/-! ### Success -/

/-- The place of a check does not decide its success. Only its issues know the place, so a result is
the same from further out. -/
theorem under_eq_ok_iff {item : PathItem} {c : Checked α} {x : α} :
    c.under item = .ok x ↔ c = .ok x := by
  cases c <;> simp [under]

/-- Two checks succeed together when each of them does. When both fail, the issues of both are
reported, so there is no such rule for failures. -/
theorem both_eq_ok_iff {c : Checked α} {d : Checked β} {x : α} {y : β} :
    c.both d = .ok (x, y) ↔ c = .ok x ∧ d = .ok y := by
  cases c <;> cases d <;> simp [both]

/-- A check on the result of another succeeds when both do. This takes a check of several stages
apart, one stage at a time. -/
theorem bind_eq_ok_iff {c : Checked α} {next : α → Checked β} {y : β} :
    c.bind next = .ok y ↔ ∃ x, c = .ok x ∧ next x = .ok y := by
  cases c <;> simp [Except.bind]

/-- A result that is put into another form was a result in its own before, so the form can be left
aside. -/
theorem map_eq_ok_iff {c : Checked α} {f : α → β} {y : β} :
    c.map f = .ok y ↔ ∃ x, c = .ok x ∧ f x = y := by
  cases c <;> simp [Except.map]

/-- The outcome of a check is a result when the check succeeds with it. The name of the record
matters to failures alone. -/
theorem asOutcome_eq_ok_iff {record : String} {c : Checked α} {x : α} :
    c.asOutcome record = .ok x ↔ c = .ok x := by
  cases c <;> simp [asOutcome]

/-! ### Failure -/

/-- A check that has an issue whenever it fails. A failure carries a list of issues, and nothing in
its type keeps the list from being empty. -/
def Explains (c : Checked α) : Prop := ∀ issues, c = .error issues → issues ≠ []

/-- A check that succeeds has no failure to explain. -/
theorem explains_ok (x : α) : Explains (.ok x) := by
  intro issues h
  cases h

/-- One fault is an issue. -/
theorem explains_fault (f : Fault) : Explains (fault f : Checked α) := by
  rintro issues ⟨⟩
  exact List.cons_ne_nil _ _

namespace Explains

/-- An issue stays one, seen from further out: its path grows, and there is one issue at least as
before. -/
theorem under {c : Checked α} (h : c.Explains) (item : PathItem) : (c.under item).Explains := by
  cases c with
  | ok x => exact explains_ok x
  | error issues =>
      rintro _ ⟨⟩ hnil
      exact h issues rfl (List.map_eq_nil_iff.mp hnil)

/-- Two checks explain their failures together: the list has the issues of each of them that
fails. -/
theorem both {c : Checked α} {d : Checked β} (hc : c.Explains) (hd : d.Explains) :
    (c.both d).Explains := by
  cases c with
  | ok x =>
      cases d with
      | ok y => exact explains_ok (x, y)
      | error more => rintro _ ⟨⟩; exact hd more rfl
  | error issues =>
      cases d with
      | ok y => rintro _ ⟨⟩; exact hc issues rfl
      -- Both fail, and the issues of the first would do.
      | error more =>
          rintro _ ⟨⟩ hnil
          exact hc issues rfl (List.append_eq_nil_iff.mp hnil).1

/-- The form of the result does not matter to a failure. -/
theorem map {c : Checked α} (h : c.Explains) (f : α → β) :
    Explains (Except.map f c : Checked β) := by
  cases c with
  | ok x => exact explains_ok (f x)
  | error issues => rintro _ ⟨⟩; exact h issues rfl

/-- A check on the result of another one fails as the one of them that fails, so it is enough that
both explain their failures. -/
theorem bind {c : Checked α} {next : α → Checked β} (h : c.Explains)
    (hnext : ∀ x, (next x).Explains) : Explains (Except.bind c next : Checked β) := by
  cases c with
  | ok x => exact hnext x
  | error issues => rintro _ ⟨⟩; exact h issues rfl

end Explains

end Checked

open Checked

/-! ### Fields -/

/-- A text field explains its failures. Byte texts are read as texts, and those that are not encoded
rightly are the only ones of their kind to fail. -/
theorem Value.explains_checkText (v : Value) : v.checkText.Explains := by
  cases v with
  | text content => exact explains_ok content
  | dimension d => exact explains_ok (Text.ofString d.text)
  | bytes content =>
      rw [checkText]
      split
      · exact explains_ok _
      · exact explains_fault _
  | _ => exact explains_fault _

namespace Given

variable {α : Type} {check : Value → Checked α}

/-- A required field explains its failures when the check of its value does. A field that is missing
is an issue of its own. -/
theorem explains_required (given : Given) (name : Text) (h : ∀ v, (check v).Explains) :
    (given.required name check).Explains := by
  refine Explains.under ?_ (.name name)
  cases Value.get? given name with
  | some value => exact h value
  | none => exact explains_fault .missing

/-- A field with a default explains its failures when the check of its value does. A field that is
missing is no failure. -/
theorem explains_withDefault (given : Given) (name : Text) (default : α)
    (h : ∀ v, (check v).Explains) : (given.withDefault name default check).Explains := by
  rw [withDefault]
  cases Value.get? given name with
  | some value => exact (h value).under (.name name)
  | none => exact explains_ok default

/-- A field that can only hold one text explains its failures. -/
theorem explains_constant (given : Given) (name text : Text) :
    (given.constant name text).Explains := by
  refine explains_withDefault given name () fun value => ?_
  split
  · split
    · exact explains_ok ()
    · exact explains_fault .wrongConstant
  · exact explains_fault .wrongConstant

end Given

end FacetSearch
