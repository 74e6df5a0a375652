import FacetSearch.Proofs.Arranged
import FacetSearch.Proofs.Json.Written
import Mathlib.Data.List.Nodup
import Mathlib.Data.List.Perm.Subperm

/-!
# `FacetSearch.Proofs.Json.Ordered`: values up to the order of entries

`Json.sameUpToOrder` compares two values of JSON and takes no account of the order in which the
entries of objects stand, at any depth. Everything else counts: the order of lists, whether a number
is whole or a double, and the sign of a zero.

`Json.inOrder` puts the entries of all objects in the order of their names. Two values are the same
up to order exactly when they are equal in order (`sameUpToOrder_iff`), and the canonical text of a
value is the JSON text of the value in order, in ASCII (`canonical_of_isJson`).
-/

set_option autoImplicit false

namespace FacetSearch.Json

/-! ### The two notions -/

mutual

/-- Whether two values of JSON are the same up to the order of the entries of objects. Objects are
when they have as many entries, and each entry of the first stands in the second. -/
def sameUpToOrder : Value → Value → Bool
  | .null, .null => true
  | .bool a, .bool b => a == b
  | .int a, .int b => a == b
  | .float a, .float b => a == b
  | .text a, .text b => a == b
  | .list xs, .list ys => sameItems xs ys
  | .map entries, .map others => entries.length == others.length && allEntriesIn entries others
  | _, _ => false
termination_by structural v => v

/-- Whether items are the same one by one. The order of a list counts, unlike that of an object. -/
def sameItems : List Value → List Value → Bool
  | [], [] => true
  | x :: xs, y :: ys => sameUpToOrder x y && sameItems xs ys
  | _, _ => false
termination_by structural xs => xs

/-- Whether each entry stands among others: under its key there is the same value. -/
def allEntriesIn : List (Value × Value) → List (Value × Value) → Bool
  | [], _ => true
  | (key, value) :: rest, others =>
      (others.any fun other => key.sameKey other.1 && sameUpToOrder value other.2) &&
        allEntriesIn rest others
termination_by structural entries => entries

end

/-- Whether an entry comes before another in the order of their keys, or beside it. -/
def entryLe {β : Type} (a b : Value × β) : Bool :=
  textLe (a.1.text?.getD "").toList (b.1.text?.getD "").toList

/-- Whether a field comes before another in the order of their names, or beside it. -/
def fieldLe {β : Type} (a b : Text × β) : Bool := textLe a.1.toList b.1.toList

mutual

/-- A value with the entries of all its objects in the order of their keys, at every depth. Lists
keep their order. -/
def inOrder : Value → Value
  | .list items => .list (inOrderItems items)
  | .map entries => .map ((inOrderEntries entries).mergeSort entryLe)
  | other => other

/-- Items in order, one by one. -/
def inOrderItems : List Value → List Value
  | [] => []
  | x :: xs => inOrder x :: inOrderItems xs

/-- Entries with their values in order. -/
def inOrderEntries : List (Value × Value) → List (Value × Value)
  | [] => []
  | (key, value) :: rest => (key, inOrder value) :: inOrderEntries rest

end

/-! ### Items and fields one by one -/

/-- Items in order, as a map. -/
theorem inOrderItems_eq (items : List Value) : inOrderItems items = items.map inOrder := by
  induction items with
  | nil => rfl
  | cons x xs ih => rw [inOrderItems, ih, List.map_cons]

/-- A field with its value in order, under its name. -/
def inOrderField (field : Text × Value) : Text × Value := (field.1, inOrder field.2)

/-- Fields with their values in order, as a map. -/
theorem inOrderEntries_eq (fields : List (Text × Value)) :
    inOrderEntries (fields.map Value.entry)
      = (fields.map inOrderField).map Value.entry := by
  induction fields with
  | nil => rfl
  | cons field rest ih =>
      rw [List.map_cons, inOrderEntries, ih]
      rfl

/-- The fields of an object in order. -/
def orderedFields (fields : List (Text × Value)) : List (Text × Value) :=
  (fields.map inOrderField).mergeSort fieldLe

/-- An object in order: its fields with their values in order, sorted by their names. The values are
put in order first, which the sort does not see. -/
theorem inOrder_ofFields (fields : List (Text × Value)) :
    inOrder (.ofFields fields) = .ofFields (orderedFields fields) := by
  have hsort : (orderedFields fields).map Value.entry
      = ((fields.map inOrderField).map Value.entry).mergeSort entryLe :=
    List.map_mergeSort fun _ _ _ _ => rfl
  rw [Value.ofFields_eq, inOrder, inOrderEntries_eq, Value.ofFields_eq, hsort]

/-- Names are ordered, so fields can be sorted. -/
theorem fieldLe_total {β : Type} (a b : Text × β) : (fieldLe a b || fieldLe b a) = true :=
  textLe_total _ _

/-- The order of names is transitive. -/
theorem fieldLe_trans {β : Type} (a b c : Text × β) (hab : fieldLe a b = true)
    (hbc : fieldLe b c = true) : fieldLe a c = true :=
  textLe_trans _ _ _ hab hbc

/-- Fields with distinct names have one order: two fields that come before each other have one name,
and so are one field. -/
theorem eq_of_fieldLe {β : Type} {fields : List (Text × β)} (h : (fields.map (·.1)).Nodup) :
    ∀ a ∈ fields, ∀ b ∈ fields, fieldLe a b = true → fieldLe b a = true → a = b :=
  fun _ ha _ hb hab hba => List.inj_on_of_nodup_map h ha hb
    (Text.toList_inj.mp (textLe_antisymm _ _ hab hba))

/-- Putting values in order keeps names. -/
theorem map_inOrderField (fields : List (Text × Value)) :
    (fields.map inOrderField).map (·.1) = fields.map (·.1) := by
  rw [List.map_map]
  rfl

/-- Fields in order are the fields with their values in order, each of them once. -/
theorem orderedFields_perm (fields : List (Text × Value)) :
    (orderedFields fields).Perm (fields.map inOrderField) := List.mergeSort_perm _ _

/-- Fields in order have the same names, so they are still apart. -/
theorem nodup_orderedFields {fields : List (Text × Value)} (h : (fields.map (·.1)).Nodup) :
    ((orderedFields fields).map (·.1)).Nodup := by
  rw [((orderedFields_perm fields).map _).nodup_iff, map_inOrderField]
  exact h

/-- A value of JSON in order is one of JSON. Sorting only moves entries, and names stay distinct. -/
theorem isJson_inOrder {P : Text → Prop} {v : Value} (h : v.IsJson P) : (inOrder v).IsJson P := by
  induction h with
  | null => exact .null
  | bool flag => exact .bool flag
  | int n => exact .int n
  | float hfinite => exact .float hfinite
  | text hcontent => exact .text hcontent
  | list _ ih =>
      rw [inOrder, inOrderItems_eq]
      refine .list fun v hv => ?_
      obtain ⟨x, hx, rfl⟩ := List.mem_map.mp hv
      exact ih x hx
  | @object fields hdistinct hnames _ ih =>
      -- A field in order comes from a field, with its value in order.
      have hmem {field} (h : field ∈ orderedFields fields) :
          ∃ f ∈ fields, inOrderField f = field :=
        List.mem_map.mp ((orderedFields_perm fields).mem_iff.mp h)
      rw [inOrder_ofFields]
      refine .object (nodup_orderedFields hdistinct) (fun field hfield => ?_) fun field hfield => ?_
      · obtain ⟨f, hf, rfl⟩ := hmem hfield
        exact hnames f hf
      · obtain ⟨f, hf, rfl⟩ := hmem hfield
        exact ih f hf

/-! ### Canonical texts -/

/-- Items that have canonical texts one by one have them together. No item can keep the others from
being written. -/
theorem canonicalItems_eq {items : List Value} {text : Value → List CodePoint}
    (h : ∀ v ∈ items, canonical v = .ok (text v)) :
    canonicalItems items = .ok (items.map text) := by
  induction items with
  | nil => rfl
  | cons x xs ih =>
      rw [canonicalItems, h x List.mem_cons_self, ih fun v hv => h v (List.mem_cons_of_mem _ hv)]
      rfl

/-- A name with the text of a value under it, as an object is made of. -/
def written (field : Text × Value) : Value × Except Failure (List CodePoint) :=
  (.text field.1, .ok (write asciiPoint field.2))

/-- The keys of fields with the canonical texts of their values, if these are the texts in order.
The entries are sorted only after this. -/
theorem canonicalEntries_eq {fields : List (Text × Value)}
    (h : ∀ field ∈ fields, canonical field.2 = .ok (write asciiPoint (inOrder field.2))) :
    canonicalEntries (fields.map Value.entry) = (fields.map inOrderField).map written := by
  induction fields with
  | nil => rfl
  | cons field rest ih =>
      rw [List.map_cons, Value.entry, canonicalEntries, h field List.mem_cons_self,
        ih fun f hf => h f (List.mem_cons_of_mem _ hf)]
      rfl

/-- Names are compared by their texts, so the sort of the canonical text is that of the fields. -/
theorem orders_written {fields : List (Text × Value)} :
    Orders (fun a b : Value × Except Failure (List CodePoint) => keyBefore a.1 b.1) entryLe
      (fields.map written) where
  total _ _ := textLe_total _ _
  trans _ _ _ hab hbc := textLe_trans _ _ _ hab hbc
  before_eq a ha b hb := by
    obtain ⟨f, -, rfl⟩ := List.mem_map.mp ha
    obtain ⟨g, -, rfl⟩ := List.mem_map.mp hb
    rfl

/-- The texts of entries, one by one. Every name is a text and every value has one, so none
fails. -/
theorem mapM_written (fields : List (Text × Value)) :
    (fields.map written).mapM canonicalEntry = .ok (fields.map (writeField asciiPoint)) := by
  induction fields with
  | nil => rfl
  | cons field rest ih =>
      rw [List.map_cons, List.mapM_cons, ih]
      rfl

/-- The canonical text of an object, from its fields with their values in order. The sort of the
library is one by halving, which gives what a stable sort gives. -/
theorem canonicalObject_written {fields : List (Text × Value)} (h : (fields.map (·.1)).Nodup) :
    canonicalObject (fields.map written)
      = .ok (write asciiPoint (.ofFields (fields.mergeSort fieldLe))) := by
  -- No two names are equal, so the sort has one result only.
  have hantisymm : ∀ a ∈ fields.map written, ∀ b ∈ fields.map written,
      entryLe a b = true → entryLe b a = true → a = b := by
    intro a ha b hb hab hba
    obtain ⟨f, hf, rfl⟩ := List.mem_map.mp ha
    obtain ⟨g, hg, rfl⟩ := List.mem_map.mp hb
    rw [eq_of_fieldLe h f hf g hg hab hba]
  have hsort : (fields.mergeSort fieldLe).map written = (fields.map written).mergeSort entryLe :=
    List.map_mergeSort fun _ _ _ _ => rfl
  rw [canonicalObject, arranged_eq_mergeSort orders_written hantisymm, ← hsort]
  show ((fields.mergeSort fieldLe).map written).mapM canonicalEntry >>= _ = _
  rw [mapM_written, write_ofFields]
  rfl

/-- **The canonical text of a value is the text of the value in order.** By induction on the value;
only an object is written otherwise than in a plain text. -/
theorem canonical_of_isJson {P : Text → Prop} {v : Value} (h : v.IsJson P) :
    canonical v = .ok (write asciiPoint (inOrder v)) := by
  induction h with
  | null => rfl
  | bool flag => cases flag <;> rfl
  | int => rfl
  | @float number hfinite =>
      cases number with
      | finite => rfl
      | infinite => cases hfinite
      | nan => cases hfinite
  | text => rfl
  | list _ ih =>
      rw [canonical, canonicalItems_eq ih, inOrder, inOrderItems_eq, write_list, List.map_map]
      rfl
  -- The entries are written one by one and then put in the order of their names, which ordering the
  -- value does beforehand.
  | @object fields hdistinct _ _ ih =>
      rw [inOrder_ofFields, Value.ofFields_eq, canonical, canonicalEntries_eq ih,
        canonicalObject_written (by rw [map_inOrderField]; exact hdistinct)]
      rfl

/-! ### Comparing -/

/-- Items are the same one by one when they are equal in order one by one. Lists of different
lengths are neither. -/
theorem sameItems_iff {xs ys : List Value}
    (h : ∀ x ∈ xs, ∀ y ∈ ys, sameUpToOrder x y = true ↔ inOrder x = inOrder y) :
    sameItems xs ys = true ↔ xs.map inOrder = ys.map inOrder := by
  induction xs generalizing ys with
  | nil => cases ys <;> simp [sameItems]
  | cons x xs ih =>
      cases ys with
      | nil => simp [sameItems]
      | cons y ys =>
          have hrest := ih fun a ha b hb =>
            h a (List.mem_cons_of_mem _ ha) b (List.mem_cons_of_mem _ hb)
          rw [sameItems, Bool.and_eq_true, h x List.mem_cons_self y List.mem_cons_self, hrest,
            List.map_cons, List.map_cons, List.cons.injEq]

/-- Entries stand among others when their fields with values in order do. Each is looked up under
its own key. -/
theorem allEntriesIn_iff {fields others : List (Text × Value)}
    (h : ∀ f ∈ fields, ∀ g ∈ others, sameUpToOrder f.2 g.2 = true ↔ inOrder f.2 = inOrder g.2) :
    allEntriesIn (fields.map Value.entry) (others.map Value.entry) = true
      ↔ fields.map inOrderField ⊆ others.map inOrderField := by
  induction fields with
  | nil => simp [allEntriesIn]
  | cons field rest ih =>
      have hfield : ((others.map Value.entry).any fun other =>
            (Value.text field.1).sameKey other.1 && sameUpToOrder field.2 other.2) = true
          ↔ inOrderField field ∈ others.map inOrderField := by
        -- An entry has the same key when it has the name, and then the values are compared.
        have hone (g : Text × Value) (hg : g ∈ others) :
            ((Value.text field.1).sameKey (.text g.1) && sameUpToOrder field.2 g.2) = true
              ↔ inOrderField g = inOrderField field := by
          have hkey : (Value.text field.1).sameKey (.text g.1) = true ↔ g.1 = field.1 := by
            rw [Value.sameKey, Value.text?, beq_iff_eq, Option.some.injEq]
          rw [Bool.and_eq_true, hkey, h field List.mem_cons_self g hg, inOrderField, inOrderField,
            Prod.mk.injEq, @eq_comm _ (inOrder field.2)]
        rw [List.any_map, List.any_eq_true, List.mem_map]
        exact exists_congr fun g => and_congr_right fun hg => hone g hg
      rw [List.map_cons, Value.entry, allEntriesIn, Bool.and_eq_true, hfield,
        ih fun f hf => h f (List.mem_cons_of_mem _ hf), List.map_cons, List.cons_subset]

/-- Distinct fields that stand among as many others are these in another order. This is where the
count of the entries is needed: without it the others could hold more. -/
theorem orderedFields_eq_iff {fields others : List (Text × Value)}
    (hfields : (fields.map (·.1)).Nodup) :
    orderedFields fields = orderedFields others
      ↔ fields.length = others.length ∧ fields.map inOrderField ⊆ others.map inOrderField := by
  constructor
  · intro heq
    have hperm : (fields.map inOrderField).Perm (others.map inOrderField) := by
      have h := orderedFields_perm fields
      rw [heq] at h
      exact h.symm.trans (orderedFields_perm others)
    exact ⟨by simpa using hperm.length_eq, hperm.subset⟩
  · rintro ⟨hlength, hsubset⟩
    have hnodup : (fields.map inOrderField).Nodup :=
      List.Nodup.of_map (·.1) (by rw [map_inOrderField]; exact hfields)
    -- As many distinct fields that all stand among the others leave none of them out.
    have hperm : (fields.map inOrderField).Perm (others.map inOrderField) :=
      (List.subperm_of_subset hnodup hsubset).perm_of_length_le (by simp [hlength])
    have hordered :=
      (orderedFields_perm fields).trans (hperm.trans (orderedFields_perm others).symm)
    exact List.Perm.eq_of_pairwise
      (fun a b ha hb => eq_of_fieldLe (nodup_orderedFields hfields) a ha b
        (hordered.mem_iff.mpr hb))
      (List.pairwise_mergeSort fieldLe_trans fieldLe_total _)
      (List.pairwise_mergeSort fieldLe_trans fieldLe_total _) hordered

/-- **Two values are the same up to order exactly when they are equal in order.** So what a key
makes of the order of entries is nothing, and what it keeps is everything else. -/
theorem sameUpToOrder_iff {P : Text → Prop} {v w : Value} (hv : v.IsJson P) (hw : w.IsJson P) :
    sameUpToOrder v w = true ↔ inOrder v = inOrder w := by
  induction hv generalizing w with
  -- A scalar is only the same as itself, so all kinds of the other value are gone through.
  | null => cases hw <;> simp [sameUpToOrder, inOrder, Value.ofFields]
  | bool flag => cases hw <;> simp [sameUpToOrder, inOrder, Value.ofFields]
  | int n => cases hw <;> simp [sameUpToOrder, inOrder, Value.ofFields]
  | float => cases hw <;> simp [sameUpToOrder, inOrder, Value.ofFields]
  | text => cases hw <;> simp [sameUpToOrder, inOrder, Value.ofFields]
  | @list items hitems ih =>
      cases hw with
      | @list others hothers =>
          have hsame := sameItems_iff fun x hx y hy => ih x hx (hothers y hy)
          rw [sameUpToOrder, hsame, inOrder, inOrder,
            inOrderItems_eq, inOrderItems_eq, Value.list.injEq]
      | _ => simp [sameUpToOrder, inOrder, Value.ofFields]
  | @object fields hdistinct _ hvalues ih =>
      cases hw with
      | @object others _ _ hvalues' =>
          rw [inOrder_ofFields, inOrder_ofFields, Value.ofFields_inj,
            orderedFields_eq_iff hdistinct, Value.ofFields_eq, Value.ofFields_eq, sameUpToOrder,
            Bool.and_eq_true, beq_iff_eq, List.length_map, List.length_map,
            allEntriesIn_iff fun f hf g hg => ih f hf (hvalues' g hg)]
      | _ => simp [sameUpToOrder, inOrder, Value.ofFields]

end FacetSearch.Json
