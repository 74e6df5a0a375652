import FacetSearch.Proofs.Catalog.Raw

/-!
# `FacetSearch.Proofs.Catalog.Row`: which option a row is

`ofRow?` and `ofTagRow?` say which option a row is, if it is one: a mapping with a label for an
identifier and a name that is missing, null or a label. A label is a text, a whole number or a
double, and becomes its text; whole numbers are assumed to be short enough to print. A tag row keeps
its kind when that is such a row itself.

A row is filtered first and checked then, by two tests of their own. For plain rows the two agree
with `ofRow?`: the filter lets the options pass (`isOptionRow_eq`) and the check gives the option
that each is (`checkRow_of_ofRow?`). For tag rows they agree with `ofTagRow?`
(`checkTagRow_of_ofTagRow?`) but for one row, a plain option that is a record already. The filter
lets it pass and the check refuses it (`checkTagRow_of_isPlainChoice`).
-/

set_option autoImplicit false

namespace FacetSearch

/-- The text that a label becomes. Booleans are no labels, although they are numbers elsewhere, and
neither are byte texts and decimal numbers. -/
def Value.label? : Value → Option Text
  | .text content => some content
  | .dimension d => some d.text
  | .int number => some (.ofChars (integerText number))
  | .float number => some (.ofChars number.text)
  | _ => none

namespace Given

/-- The text of the label under a key. -/
def label? (given : Given) (name : Text) : Option Text :=
  (Value.get? given name).bind Value.label?

/-- The text of the label under a key, where a missing one and null are no text. The outer option
tells whether the key is well-formed, the inner one whether there is a text. -/
def optionalLabel? (given : Given) (name : Text) : Option (Option Text) :=
  match Value.get? given name with
  | none => some none
  | some .null => some none
  | some v => v.label?.map some

end Given

namespace Choice

/-- The option that a row is, if it is one. A row that is an option already, as a record, is itself,
also when it is a tag option among plain rows. -/
def ofRow? : Value → Option Choice
  | .choice row => some row
  | .map given => do
      return .plain (← Given.label? given "id") (← Given.optionalLabel? given "name")
  | _ => none

/-- The tag option that a row is, if it is one. A kind that is no option is none and does not spoil
the row. A plain option, as a record, is no tag option. -/
def ofTagRow? : Value → Option Choice
  | .choice (.tag id name kind) => some (.tag id name kind)
  | .map given => do
      return .tag (← Given.label? given "id") (← Given.optionalLabel? given "name")
        ((Value.get? given "tagType").bind ofRow?)
  | _ => none

end Choice

/-- A row that is a plain option already, as a record. -/
def Value.isPlainChoice : Value → Bool
  | .choice (.plain ..) => true
  | _ => false

/-! ### Labels -/

namespace Value

/-- The labels are the values that a label is made from. The filter asks for the first and the check
for the second, each with a match of its own, so that they agree needs every kind of value. -/
theorem isLabel_eq (v : Value) : v.isLabel = v.label?.isSome := by
  cases v <;> rfl

/-- The check of labels gives the text that a label becomes. It takes more than labels, so the
converse does not hold. -/
theorem checkLabel_of_label? {v : Value} {text : Text} (h : v.label? = some text) :
    v.checkLabel = .ok text := by
  cases v with
  | text => cases h; rfl
  | dimension => cases h; rfl
  | int => cases h; rfl
  | float => cases h; rfl
  | _ => cases h

end Value

namespace Given

variable {given : Given} {name : Text}

/-- A key has a label when there is a text of it. -/
theorem hasLabel_eq : given.hasLabel name = (given.label? name).isSome := by
  rw [hasLabel, label?]
  cases Value.get? given name with
  | none => rfl
  | some v => exact v.isLabel_eq

/-- A required label passes its check with its text. The place of an issue plays no role, as there
is none. -/
theorem required_of_label? {text : Text} (h : given.label? name = some text) :
    given.required name Value.checkLabel = .ok text := by
  obtain ⟨v, hv, hlabel⟩ := Option.bind_eq_some_iff.mp h
  rw [required, hv]
  show ((v.checkLabel).under (.name name) : Checked Text) = .ok text
  rw [Value.checkLabel_of_label? hlabel]
  rfl

/-- A key has no value, null or a label when the text of an optional label is known. -/
theorem isSome_optionalLabel? :
    (given.optionalLabel? name).isSome = (given.isAbsent name || given.hasLabel name) := by
  rw [optionalLabel?, isAbsent, hasLabel]
  cases Value.get? given name with
  | none => rfl
  | some v => cases v <;> rfl

/-- An optional label passes its check with its text: a missing one takes the default, which is
none, and null passes as none. -/
theorem withDefault_of_optionalLabel? {text : Option Text}
    (h : given.optionalLabel? name = some text) :
    given.withDefault name none (Value.checkOptional Value.checkLabel) = .ok text := by
  rw [optionalLabel?] at h
  rw [withDefault]
  cases hv : Value.get? given name with
  | none =>
      rw [hv] at h
      exact congrArg Except.ok (Option.some.inj h)
  | some v =>
      rw [hv] at h
      -- Null and the four labels pass, and every other value has no text of an optional label.
      cases v with
      | null => exact congrArg Except.ok (Option.some.inj h)
      | text => cases h; rfl
      | dimension => cases h; rfl
      | int => cases h; rfl
      | float => cases h; rfl
      | _ => cases h

end Given

/-! ### Rows -/

namespace Choice

/-- The rows that pass the filter are the options. Filter and option look at the same two keys of a
mapping, the one for the kinds of their values and the other for their texts. -/
theorem isOptionRow_eq (row : Value) : row.isOptionRow = (ofRow? row).isSome := by
  cases row with
  | choice => rfl
  | map given =>
      rw [Value.isOptionRow, ofRow?, Given.hasLabel_eq, ← Given.isSome_optionalLabel?]
      cases Given.label? given "id" with
      | none => rfl
      | some id => cases Given.optionalLabel? given "name" <;> rfl
  | _ => rfl

/-- An option passes the check of plain rows, as the option that it is. With `isOptionRow_eq` no row
that passes the filter fails the check. -/
theorem checkRow_of_ofRow? {row : Value} {option : Choice} (h : ofRow? row = some option) :
    checkRow row = .ok option := by
  cases row with
  | choice => cases h; rfl
  | map given =>
      rw [ofRow?] at h
      simp only [Option.bind_eq_bind, Option.bind_eq_some_iff, Option.pure_def] at h
      obtain ⟨id, hid, name, hname, hoption⟩ := h
      rw [checkRow, checkPlain, Given.required_of_label? hid,
        Given.withDefault_of_optionalLabel? hname]
      exact congrArg Except.ok (Option.some.inj hoption)
  | _ => cases h

/-- Among the tags the filter lets plain options pass as well, so there it lets more pass than the
tag options. Apart from these records it does not. -/
theorem isOptionRow_eq_of_not_isPlainChoice {row : Value} (h : row.isPlainChoice = false) :
    row.isOptionRow = (ofTagRow? row).isSome := by
  cases row with
  | choice option =>
      cases option with
      | plain => cases h
      | tag => rfl
  | map given =>
      rw [isOptionRow_eq, ofRow?, ofTagRow?]
      cases Given.label? given "id" with
      | none => rfl
      | some id => cases Given.optionalLabel? given "name" <;> rfl
  | _ => rfl

/-- Where the kind of a tag is no option it is cleared, and the rest of the row stays. Either way
the check of the kind then gives the option under the first of its names or none, so a kind never
makes the check of a tag fail. -/
theorem get?_clearKind (given : Given) :
    ∃ cleared, Catalog.clearKind (.map given) = .map cleared ∧
      (∀ name : Text, name ≠ "tagType" → Value.get? cleared name = Value.get? given name) ∧
      Given.withEitherName cleared "tagType" "tag_type" none (Value.checkOptional checkRow)
        = .ok ((Value.get? given "tagType").bind ofRow?) := by
  rw [Catalog.clearKind]
  split
  -- The kind is an option and stays, and the check takes it.
  · rename_i hkind
    refine ⟨given, rfl, fun _ _ => rfl, ?_⟩
    cases hget : Value.get? given "tagType" with
    | none =>
        rw [hget] at hkind
        cases hkind
    | some kind =>
        rw [hget] at hkind
        obtain ⟨option, hoption⟩ := Option.isSome_iff_exists.mp
          ((isOptionRow_eq kind).symm.trans hkind)
        have hnull : kind ≠ .null := by
          rintro rfl
          cases hoption
        have hcheck : Value.checkOptional checkRow kind = .ok (some option) := by
          rw [Value.checkOptional, checkRow_of_ofRow? hoption]
          · rfl
          · exact hnull
        rw [Given.withEitherName, hget]
        show ((Value.checkOptional checkRow kind).under (.name "tagType") : Checked _) = _
        rw [hcheck, Option.bind_some, hoption]
        rfl
  -- The kind is put to null, which stands first now and checks as none.
  · rename_i hkind
    refine ⟨_, rfl, fun name hname => by rw [Value.get?_putBy, if_neg hname], ?_⟩
    have hnone : (Value.get? given "tagType").bind ofRow? = none := by
      cases hget : Value.get? given "tagType" with
      | none => rfl
      | some kind =>
          rw [hget] at hkind
          refine Option.not_isSome_iff_eq_none.mp fun hsome => hkind ?_
          exact (isOptionRow_eq kind).trans hsome
    rw [Given.withEitherName, Value.get?_putBy, if_pos rfl, hnone]
    rfl

/-- What the check of tag rows says of a mapping once its kind is cleared: the identifier and the
name are checked, and the kind is the option under the first of its names or none. -/
theorem checkTagRow_clearKind (given : Given) :
    checkTagRow (Catalog.clearKind (.map given))
      = ((given.required "id" Value.checkLabel).both
          (given.withDefault "name" none (Value.checkOptional Value.checkLabel))).map
        fun (id, name) => .tag id name ((Value.get? given "tagType").bind ofRow?) := by
  -- The check looks at three keys, and clearing changes at most the third.
  obtain ⟨cleared, hclear, hother, hkind⟩ := get?_clearKind given
  have hid : Given.required cleared "id" Value.checkLabel
      = given.required "id" Value.checkLabel := by
    rw [Given.required, Given.required, hother "id" (by decide)]
  have hname : Given.withDefault cleared "name" none (Value.checkOptional Value.checkLabel)
      = given.withDefault "name" none (Value.checkOptional Value.checkLabel) := by
    rw [Given.withDefault, Given.withDefault, hother "name" (by decide)]
  rw [hclear, checkTagRow, checkTag, hid, hname, hkind]
  cases given.required "id" Value.checkLabel <;>
    cases given.withDefault "name" none (Value.checkOptional Value.checkLabel) <;> rfl

/-- A tag option passes the check of tag rows once its kind is cleared, as the option that it is. -/
theorem checkTagRow_of_ofTagRow? {row : Value} {option : Choice}
    (h : ofTagRow? row = some option) : checkTagRow (Catalog.clearKind row) = .ok option := by
  cases row with
  | choice known =>
      cases known with
      | plain => cases h
      | tag => cases h; rfl
  -- The identifier and the name are the same in both. What the kind was makes no difference.
  | map given =>
      rw [ofTagRow?] at h
      simp only [Option.bind_eq_bind, Option.bind_eq_some_iff, Option.pure_def] at h
      obtain ⟨id, hid, name, hname, hoption⟩ := h
      rw [checkTagRow_clearKind, Given.required_of_label? hid,
        Given.withDefault_of_optionalLabel? hname]
      exact congrArg Except.ok (Option.some.inj hoption)
  | _ => cases h

/-- A plain option does not pass the check of tag rows, though it has passed the filter. The two
tests disagree on this one kind of row, and it makes the check of the whole payload fail. -/
theorem checkTagRow_of_isPlainChoice {row : Value} (h : row.isPlainChoice = true) :
    checkTagRow (Catalog.clearKind row) = .fault .notRecord := by
  cases row with
  | choice known =>
      cases known with
      | plain => rfl
      | tag => cases h
  | _ => cases h

end Choice

end FacetSearch
