import FacetSearch.Proofs.Entries
import FacetSearch.Request

/-!
# `FacetSearch.Proofs.Request`: the request of a document

A text is a valid document, and so are variables under distinct names: no check of a request refuses
them or changes them. `Request.ofDocument_eq` says so: the request of a text and its variables holds
both as they are, with the name that is found in the text.
-/

set_option autoImplicit false

namespace FacetSearch

/-- Variables as they are passed to a transport, which may be missing. Missing ones are null and not
an empty mapping. -/
def Value.ofBindings (bindings : Option (List (Text × Value))) : Value :=
  (bindings.map Value.ofFields).getD .null

namespace Request

/-- The request of a text and its variables. -/
def named (query : Text) (bindings : Option (List (Text × Value))) : Request where
  query := query
  bindings := bindings
  operationName := OperationName.ofText? query

end Request

namespace Checked

variable {α β : Type}

/-- Checks that all succeed succeed together. -/
theorem all_map_ok (values : List α) (result : α → β) :
    all (values.map fun v => (.ok (result v) : Checked β)) = .ok (values.map result) := by
  induction values with
  | nil => rfl
  | cons v rest ih =>
      rw [List.map_cons, all, ih]
      rfl

end Checked

namespace Value

/-- Entries under distinct names pass the check of mappings as they are. The check puts them one by
one, and none takes the place of another. -/
theorem checkMapping_ofFields {fields : List (Text × Value)}
    (h : (fields.map (·.1)).Nodup) :
    checkMapping checkAny (ofFields fields) = .ok fields := by
  rw [ofFields_eq, checkMapping, List.map_map]
  -- Each entry passes its check as it is.
  refine (congrArg (Except.map (Entries.putAll [])) (Checked.all_map_ok fields id)).trans ?_
  rw [List.map_id]
  exact congrArg Except.ok (Entries.putAll_of_nodup h)

/-- A list of mappings under distinct names passes the check of lists of mappings as it is. -/
theorem checkList_ofFields {rows : List (List (Text × Value))}
    (h : ∀ row ∈ rows, (row.map (·.1)).Nodup) :
    checkList (checkMapping checkAny) (.list (rows.map ofFields)) = .ok rows := by
  have hchecks : (rows.map ofFields).mapIdx (fun position value =>
        (checkMapping checkAny value).under (.index position))
      = rows.map fun row => (.ok row : Checked (List (Text × Value))) := by
    refine List.ext_getElem (by simp) fun position h₁ h₂ => ?_
    have hrow : position < rows.length := by simpa using h₂
    simp [checkMapping_ofFields (h rows[position] (List.getElem_mem hrow)), Checked.under]
  show Checked.all _ = _
  rw [hchecks, Checked.all_map_ok, List.map_id']

end Value

namespace Request

/-- A text with variables under distinct names makes a request that holds both as they are, with the
name that is found in the text. -/
theorem ofDocument_eq (query : Text) {bindings : Option (List (Text × Value))}
    (h : ∀ fields, bindings = some fields → (fields.map (·.1)).Nodup) :
    ofDocument (.text query) (.ofBindings bindings) = .ok (named query bindings) := by
  have hbindings : Value.checkOptional (Value.checkMapping Value.checkAny) (.ofBindings bindings)
      = .ok bindings := by
    cases bindings with
    | none => rfl
    | some fields =>
        show (Value.checkMapping Value.checkAny (.ofFields fields)).map some = _
        rw [Value.checkMapping_ofFields (h fields rfl)]
        rfl
  have hname : Value.checkOptional Value.checkText
      (((OperationName.ofText? query).map Value.text).getD .null)
      = .ok (OperationName.ofText? query) := by
    cases OperationName.ofText? query with
    | none => rfl
    | some name => rfl
  -- The three fields are found under their names, and each passes its check.
  show Checked.asOutcome recordName (Except.map _ (Checked.both (.ok query : Checked Text)
      (Checked.both
        ((Value.checkOptional (Value.checkMapping Value.checkAny) (.ofBindings bindings)).under
          (.name "variables"))
        ((Value.checkOptional Value.checkText
          (((OperationName.ofText? query).map Value.text).getD .null)).under
            (.name "operation_name"))))) = _
  rw [hbindings, hname]
  rfl

end Request

end FacetSearch
