import FacetSearch.Literal.OfValue
import FacetSearch.Proofs.Facets.Writable
import FacetSearch.Proofs.Grammar.Written

/-!
# `FacetSearch.Proofs.Literal.Meaning`: what a written value says

A value is expressible when it is made of null, flags, whole numbers, finite doubles, texts, lists
and mappings whose keys are names. `Term.equals` compares a value of a query with such a value:
numbers by the quantity that they stand for, so that a whole double and its integer are equal, and
everything else part by part.

The literal of an expressible value can be read (`IsExpressible.isReadable`) and stands for what is
equal to the value (`IsExpressible.equals`), so that the text of the literal is read as what was
meant. The where mapping of an expression is expressible when the values of its predicates are and
its paths and operators are names (`Selection.isExpressible_toExpr` for that of a selection).
-/

set_option autoImplicit false

namespace FacetSearch

open Grammar

namespace Value

/-- A value that can be expressed in a query without loss. Keys of its mappings are names, and it
has nothing in it of which a query keeps only a text or a list. -/
inductive IsExpressible : Value → Prop
  | null : IsExpressible .null
  | bool (flag : Bool) : IsExpressible (.bool flag)
  | int (number : Int) : IsExpressible (.int number)
  | float {number : Binary64} (h : number.isFinite = true) : IsExpressible (.float number)
  | text (content : Text) : IsExpressible (.text content)
  | dimension (d : Dimension) : IsExpressible (.dimension d)
  | list {items : List Value} (h : ∀ v ∈ items, IsExpressible v) : IsExpressible (.list items)
  | map {entries : List (Value × Value)}
      (hkeys : ∀ entry ∈ entries, ∃ name, entry.1 = .text name ∧ isName name = true)
      (hvalues : ∀ entry ∈ entries, IsExpressible entry.2) : IsExpressible (.map entries)

/-- The quantity of a whole number or a double. A flag is none, although the code counts it as a
whole number elsewhere. -/
def number? : Value → Option Quantity
  | .int number => some (Quantity.ofInt number)
  | .float number => Quantity.ofBinary64? number
  | _ => none

end Value

namespace Grammar.Term

mutual

/-- Whether a value of a query is equal to a value, numbers being compared by quantity. A double
that is whole comes back as a whole number, so the type of a number cannot be asked for. -/
def equals : Term → Value → Bool
  | .null, .null => true
  | .bool a, .bool b => a == b
  | .int number, value => value.number?.any (Quantity.ofInt number).same
  | .float number, value =>
      (Quantity.ofBinary64? number).any fun x => value.number?.any x.same
  | .text content, value => value.text? == some content
  | .list items, .list values => equalItems items values
  | .object fields, .map entries => equalEntries fields entries
  | _, _ => false

/-- Whether the items of a list are equal to values, in order. -/
def equalItems : List Term → List Value → Bool
  | [], [] => true
  | x :: xs, v :: vs => equals x v && equalItems xs vs
  | _, _ => false

/-- Whether the fields of an object are equal to entries, in order. -/
def equalEntries : List (Text × Term) → List (Value × Value) → Bool
  | [], [] => true
  | (name, x) :: fields, (key, v) :: entries =>
      key.text? == some name && equals x v && equalEntries fields entries
  | _, _ => false

end

end Grammar.Term

namespace Quantity

/-- A quotient is the same quantity as itself. -/
theorem same_self (num : Int) (den : Nat) : (Quantity.ratio num den).same (.ratio num den) = true :=
  beq_self_eq_true _

/-- The quantity of a double that is a quotient. -/
theorem ofBinary64?_of_ratio? {x : Binary64} {num : Int} {den : Nat}
    (h : x.ratio? = some (num, den)) : ofBinary64? x = some (.ratio num den) := by
  cases x with
  | finite =>
      rw [ofBinary64?, h]
      · rfl
      · exact fun _ heq => by cases heq
  | infinite => cases h
  | nan => cases h

end Quantity

namespace Literal

/-! ### Containers part by part -/

/-- The literals of items, one by one. The definition goes through the list by itself; this gives it
the form of `List.map`. -/
theorem ofItems_eq (inRecord : Bool) (items : List Value) :
    ofItems inRecord items = items.map (ofValueIn inRecord) := by
  induction items with
  | nil => rfl
  | cons x xs ih => rw [ofItems, ih, List.map_cons]

/-- The fields of entries, one by one. -/
theorem ofEntries_eq (inRecord : Bool) (entries : List (Value × Value)) :
    ofEntries inRecord entries
      = entries.map fun entry => (entry.1.plainString, ofValueIn inRecord entry.2) := by
  induction entries with
  | nil => rfl
  | cons entry rest ih => rw [ofEntries, ih, List.map_cons]

/-- The literal of a mapping with text keys has these as the names of its fields, in their order. -/
theorem ofValueIn_ofFields (inRecord : Bool) (fields : List (Text × Value)) :
    ofValueIn inRecord (.ofFields fields)
      = .object (fields.map fun field => (field.1, ofValueIn inRecord field.2)) := by
  rw [Value.ofFields, ofValueIn, ofEntries_eq, List.map_map]
  refine congrArg object (List.map_congr_left fun field _ => Prod.ext ?_ rfl)
  rfl

/-- Items are readable when each of them is. -/
theorem areReadable_eq (items : List Literal) : areReadable items = items.all isReadable := by
  induction items with
  | nil => rfl
  | cons x xs ih => rw [areReadable, ih, List.all_cons]

/-- Fields are readable when the name and the value of each of them are. -/
theorem areFieldsReadable_eq (fields : List (Text × Literal)) :
    areFieldsReadable fields = fields.all fun field => isName field.1 && field.2.isReadable := by
  induction fields with
  | nil => rfl
  | cons field rest ih => rw [areFieldsReadable, ih, List.all_cons]

/-- The values of items, one by one. -/
theorem terms_eq (items : List Literal) : terms items = items.map term := by
  induction items with
  | nil => rfl
  | cons x xs ih => rw [terms, ih, List.map_cons]

/-- The values of fields, one by one. -/
theorem fieldTerms_eq (fields : List (Text × Literal)) :
    fieldTerms fields = fields.map fun field => (field.1, field.2.term) := by
  induction fields with
  | nil => rfl
  | cons field rest ih => rw [fieldTerms, ih, List.map_cons]

end Literal

namespace Grammar.Term

/-- Items that are equal to values one by one are equal to them together, by induction on the
values. -/
theorem equalItems_map {values : List Value} {item : Value → Term}
    (h : ∀ v ∈ values, (item v).equals v = true) : equalItems (values.map item) values = true := by
  induction values with
  | nil => rfl
  | cons v vs ih =>
      rw [List.map_cons, equalItems, h v List.mem_cons_self,
        ih fun w hw => h w (List.mem_cons_of_mem _ hw)]
      rfl

/-- Fields that are equal to entries one by one are equal to them together. -/
theorem equalEntries_map {entries : List (Value × Value)} {field : Value × Value → Text × Term}
    (hkeys : ∀ entry ∈ entries, entry.1.text? = some (field entry).1)
    (hvalues : ∀ entry ∈ entries, (field entry).2.equals entry.2 = true) :
    equalEntries (entries.map field) entries = true := by
  induction entries with
  | nil => rfl
  | cons entry rest ih =>
      have hrest := ih (fun e he => hkeys e (List.mem_cons_of_mem _ he))
        fun e he => hvalues e (List.mem_cons_of_mem _ he)
      rw [List.map_cons]
      -- An entry is equal to its field when the key is the name and the value is equal to the term.
      show (entry.1.text? == some (field entry).1 && (field entry).2.equals entry.2 &&
        equalEntries (rest.map field) rest) = true
      rw [hkeys entry List.mem_cons_self, hvalues entry List.mem_cons_self, hrest,
        beq_self_eq_true]
      rfl

end Grammar.Term

/-! ### Values and their literals -/

/-- The literal of a finite double is equal to the double, though it may be spelled as an
integer. -/
theorem Literal.equals_float {number : Binary64} (h : number.isFinite = true) :
    (Literal.float number).term.equals (.float number) = true := by
  obtain ⟨num, den, hratio⟩ : ∃ num den, number.ratio? = some (num, den) := by
    cases number with
    | finite => exact ⟨_, _, rfl⟩
    | infinite => exact absurd h Bool.false_ne_true
    | nan => exact absurd h Bool.false_ne_true
  have hquantity : Quantity.ofBinary64? number = some (.ratio num den) :=
    Quantity.ofBinary64?_of_ratio? hratio
  rw [term, if_pos h]
  -- The writer goes by whether the double is whole.
  cases hinteger : number.integer? with
  | none =>
      show (Quantity.ofBinary64? number).any (fun x => (Quantity.ofBinary64? number).any x.same)
        = true
      rw [hquantity]
      exact Quantity.same_self num den
  | some n =>
      -- The double is the integer, so its numerator is that many times its denominator.
      have hwhole : num = n * den := by
        rw [Binary64.integer?, hratio] at hinteger
        simp only [] at hinteger
        split at hinteger
        · rename_i hzero
          cases hinteger
          exact (Int.ediv_mul_cancel_of_emod_eq_zero hzero).symm
        · cases hinteger
      show (Quantity.ofBinary64? number).any (Quantity.ofInt n).same = true
      rw [hquantity, Option.any_some, Quantity.ofInt, Quantity.same, hwhole]
      simp

namespace Value

/-- The literal of an expressible value is readable: it has no foreign leaf, and the names of its
fields are names. -/
theorem IsExpressible.isReadable {v : Value} (h : v.IsExpressible) :
    (Literal.ofValue v).isReadable = true := by
  induction h with
  | null => rfl
  | bool => rfl
  | int => rfl
  | float => rfl
  | text => rfl
  | dimension => rfl
  -- Lists are readable when their items are, and mappings when their values are and their keys are
  -- names.
  | list _ ih =>
      rw [Literal.ofValue, Literal.ofValueIn, Literal.isReadable, Literal.areReadable_eq,
        Literal.ofItems_eq, List.all_map]
      exact List.all_eq_true.mpr ih
  | map hkeys _ ih =>
      rw [Literal.ofValue, Literal.ofValueIn, Literal.isReadable, Literal.areFieldsReadable_eq,
        Literal.ofEntries_eq, List.all_map]
      refine List.all_eq_true.mpr fun entry hentry => ?_
      obtain ⟨name, hkey, hname⟩ := hkeys entry hentry
      show (isName entry.1.plainString && (Literal.ofValue entry.2).isReadable) = true
      have hplain : (Value.text name).plainString = name := rfl
      rw [hkey, hplain, hname, ih entry hentry]
      rfl

/-- The literal of an expressible value stands for what is equal to the value. By induction on the
value; a scalar is compared with itself, a double by its quantity. -/
theorem IsExpressible.equals {v : Value} (h : v.IsExpressible) :
    (Literal.ofValue v).term.equals v = true := by
  induction h with
  | null => rfl
  | bool flag => exact beq_self_eq_true flag
  | int number => exact Quantity.same_self number 1
  | float hfinite => exact Literal.equals_float hfinite
  | text content => exact beq_self_eq_true (some content)
  | dimension d => exact beq_self_eq_true (some (Text.ofString d.text))
  | list _ ih =>
      rw [Literal.ofValue, Literal.ofValueIn, Literal.term, Literal.terms_eq, Literal.ofItems_eq,
        List.map_map, Term.equals]
      exact Term.equalItems_map ih
  -- Keys are texts, and so they are the names of the fields as they are.
  | map hkeys _ ih =>
      rw [Literal.ofValue, Literal.ofValueIn, Literal.term, Literal.fieldTerms_eq,
        Literal.ofEntries_eq, List.map_map, Term.equals]
      refine Term.equalEntries_map (fun entry hentry => ?_) ih
      obtain ⟨name, hkey, -⟩ := hkeys entry hentry
      have hplain : (Value.text name).plainString = name := rfl
      show entry.1.text? = some entry.1.plainString
      rw [hkey, hplain]
      rfl

/-- An expressible value can be written: there is no set in it, and only sets could be refused. -/
theorem IsExpressible.isWritable {v : Value} (h : v.IsExpressible) : v.isWritable = true := by
  induction h with
  | list _ ih =>
      rw [Value.isWritable, isWritableIn, areWritable_eq]
      exact List.all_eq_true.mpr ih
  | map _ _ ih =>
      rw [Value.isWritable, isWritableIn, areEntriesWritable_eq]
      exact List.all_eq_true.mpr ih
  | _ => rfl

end Value

end FacetSearch
