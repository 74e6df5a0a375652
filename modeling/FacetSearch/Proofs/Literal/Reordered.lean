import FacetSearch.Proofs.Literal.Meaning
import FacetSearch.Proofs.Value.Shown

/-!
# `FacetSearch.Proofs.Literal.Reordered`: the order in which sets are gone through

A set has no order of its own, and going through it yields its members in one of many.
`Value.Reordered` relates the values that differ in nothing else, at any depth. The members of a set
are sorted by their shown text before they are written, so the order is forgotten where this text
does not depend on it: `reordered_sameText`.

It does depend on it for members that hold a set of two or more members themselves, since a set is
shown in the order in which it is gone through (`nestedSet_otherText`). The same goes for the keys
of mappings, which become field names by their text. `Value.isOrderFree` excludes these two places
and nothing else; a set that is not a member of another one may have any members.

The sort needs one more fact: members that are shown alike have the same literal. They are even the
same value (`Value.eq_of_shown_eq`). Integers are assumed to be short enough to be shown.
-/

set_option autoImplicit false

namespace FacetSearch

namespace Value

/-- Values that differ at most in the order in which their sets are gone through, at any depth. The
parts of containers stand in pairs, each part with the one that it becomes. -/
inductive Reordered : Value → Value → Prop
  | refl (v : Value) : Reordered v v
  | list {pairs : List (Value × Value)} (h : ∀ pair ∈ pairs, Reordered pair.1 pair.2) :
      Reordered (.list (pairs.map (·.1))) (.list (pairs.map (·.2)))
  | tuple {pairs : List (Value × Value)} (h : ∀ pair ∈ pairs, Reordered pair.1 pair.2) :
      Reordered (.tuple (pairs.map (·.1))) (.tuple (pairs.map (·.2)))
  | set (frozen : Bool) {pairs : List (Value × Value)}
      (h : ∀ pair ∈ pairs, Reordered pair.1 pair.2) {items : List Value}
      (hitems : (pairs.map (·.2)).Perm items) :
      Reordered (.set frozen (pairs.map (·.1))) (.set frozen items)
  | map {pairs : List ((Value × Value) × (Value × Value))}
      (hkeys : ∀ pair ∈ pairs, Reordered pair.1.1 pair.2.1)
      (hvalues : ∀ pair ∈ pairs, Reordered pair.1.2 pair.2.2) :
      Reordered (.map (pairs.map (·.1))) (.map (pairs.map (·.2)))

mutual

/-- Whether a key is a set of two or more members or holds one. The text that such a key is shown as
depends on an order. -/
def holdsPair : Value → Bool
  | .tuple items => anyHoldsPair items
  | .set _ items => decide (2 ≤ items.length) || anyHoldsPair items
  | _ => false

/-- Whether one of several keys is such a set or holds one. -/
def anyHoldsPair : List Value → Bool
  | [] => false
  | x :: xs => holdsPair x || anyHoldsPair xs

end

mutual

/-- Whether no set of two or more members stands in the text of a key, or in a member of a set that
has others beside it. -/
def isOrderFree : Value → Bool
  | .list items => areOrderFree items
  | .tuple items => areOrderFree items
  | .set _ items => (decide (items.length ≤ 1) || !anyHoldsPair items) && areOrderFree items
  | .map entries => areEntriesOrderFree entries
  | _ => true

/-- Whether this is so of items. -/
def areOrderFree : List Value → Bool
  | [] => true
  | x :: xs => isOrderFree x && areOrderFree xs

/-- Whether this is so of the entries of a mapping. -/
def areEntriesOrderFree : List (Value × Value) → Bool
  | [] => true
  | (key, value) :: rest => !holdsPair key && isOrderFree value && areEntriesOrderFree rest

end

/-- A set of two or more is held by items when one of them holds it. -/
theorem anyHoldsPair_eq (items : List Value) : anyHoldsPair items = items.any holdsPair := by
  induction items with
  | nil => rfl
  | cons x xs ih => rw [anyHoldsPair, ih, List.any_cons]

/-- Items are free of order one by one. -/
theorem areOrderFree_eq (items : List Value) : areOrderFree items = items.all isOrderFree := by
  induction items with
  | nil => rfl
  | cons x xs ih => rw [areOrderFree, ih, List.all_cons]

/-- Entries are free of order one by one. -/
theorem areEntriesOrderFree_eq (entries : List (Value × Value)) :
    areEntriesOrderFree entries
      = entries.all fun entry => !holdsPair entry.1 && isOrderFree entry.2 := by
  induction entries with
  | nil => rfl
  | cons entry rest ih => rw [areEntriesOrderFree, ih, List.all_cons]

/-- Pairs of parts that are the same make the same list twice. -/
theorem map_fst_eq_map_snd {α : Type} {pairs : List (α × α)}
    (h : ∀ pair ∈ pairs, pair.1 = pair.2) : pairs.map (·.1) = pairs.map (·.2) :=
  List.map_congr_left h

/-- One item alone has one order only. So a set with one member can be gone through in one way. -/
theorem eq_of_perm_of_length_le {items others : List Value} (h : items.Perm others)
    (hlength : items.length ≤ 1) : items = others := by
  cases items with
  | nil => exact (List.nil_perm.mp h).symm
  | cons x xs =>
      obtain rfl : xs = [] := by
        rw [List.length_cons] at hlength
        exact List.length_eq_zero_iff.mp (by omega)
      exact List.singleton_perm.mp h

namespace Reordered

variable {v w : Value}

/-! ### What the order leaves alone -/

/-- Keys stay keys: what may be a key depends on the kinds of values and not on any order. -/
theorem isKey_eq (h : Reordered v w) : v.isKey = w.isKey := by
  induction h with
  | tuple _ ih =>
      rw [isKey, isKey, areKeys_eq, areKeys_eq, Bool.eq_iff_iff, List.all_eq_true,
        List.all_eq_true, List.forall_mem_map, List.forall_mem_map]
      exact forall₂_congr fun pair hpair => by rw [ih pair hpair]
  | _ => rfl

/-- Values that are built from scalars and containers stay such values, since only the order of
members changes. -/
theorem isPlain (h : Reordered v w) (hv : v.IsPlain) : w.IsPlain := by
  induction h with
  | refl => exact hv
  | @list pairs _ ih =>
      cases hv with
      | list hitems =>
          refine .list (List.forall_mem_map.mpr fun pair hpair => ?_)
          exact ih pair hpair (hitems _ (List.mem_map_of_mem hpair))
  | @tuple pairs _ ih =>
      cases hv with
      | tuple hitems =>
          refine .tuple (List.forall_mem_map.mpr fun pair hpair => ?_)
          exact ih pair hpair (hitems _ (List.mem_map_of_mem hpair))
  -- A member of the second set is the partner of a member of the first one.
  | @set frozen pairs h items hperm ih =>
      cases hv with
      | set _ hitems hkeys =>
          refine .set frozen (fun x hx => ?_) fun x hx => ?_
          · obtain ⟨pair, hpair, rfl⟩ := List.mem_map.mp (hperm.mem_iff.mpr hx)
            exact ih pair hpair (hitems _ (List.mem_map_of_mem hpair))
          · obtain ⟨pair, hpair, rfl⟩ := List.mem_map.mp (hperm.mem_iff.mpr hx)
            rw [← (h pair hpair).isKey_eq]
            exact hkeys _ (List.mem_map_of_mem hpair)
  | @map pairs hkey _ ihkeys ihvalues =>
      cases hv with
      | map hentries hkeys hvalues =>
          refine .map (List.forall_mem_map.mpr fun pair hpair => ?_)
            (List.forall_mem_map.mpr fun pair hpair => ?_)
            (List.forall_mem_map.mpr fun pair hpair => ?_)
          · exact ihkeys pair hpair (hentries _ (List.mem_map_of_mem hpair))
          · rw [← (hkey pair hpair).isKey_eq]
            exact hkeys _ (List.mem_map_of_mem hpair)
          · exact ihvalues pair hpair (hvalues _ (List.mem_map_of_mem hpair))

/-- A key without sets of two or more members has one order only, so it is the same value after
reordering. -/
theorem eq_of_holdsPair (h : Reordered v w) (hv : v.IsPlain) (hkey : v.isKey = true)
    (hnone : v.holdsPair = false) : v = w := by
  induction h with
  | refl => rfl
  | list => cases hkey
  | @tuple pairs _ ih =>
      cases hv with
      | tuple hitems =>
          rw [holdsPair, anyHoldsPair_eq, List.any_eq_false] at hnone
          refine congrArg Value.tuple (map_fst_eq_map_snd fun pair hpair => ?_)
          have hmem : pair.1 ∈ pairs.map (·.1) := List.mem_map_of_mem hpair
          exact ih pair hpair (hitems _ hmem) (isKey_of_mem_tuple hkey hmem)
            (Bool.eq_false_iff.mpr (hnone _ hmem))
  | @set frozen pairs _ items hperm ih =>
      cases hv with
      | set _ hitems hkeys =>
          rw [holdsPair, Bool.or_eq_false_iff, decide_eq_false_iff_not, anyHoldsPair_eq,
            List.any_eq_false, List.length_map] at hnone
          -- The set has one member at most, so it was not moved.
          have hone : items = pairs.map (·.2) := by
            refine (eq_of_perm_of_length_le hperm ?_).symm
            rw [List.length_map]
            omega
          rw [hone]
          refine congrArg (Value.set frozen) (map_fst_eq_map_snd fun pair hpair => ?_)
          have hmem : pair.1 ∈ pairs.map (·.1) := List.mem_map_of_mem hpair
          exact ih pair hpair (hitems _ hmem) (hkeys _ hmem)
            (Bool.eq_false_iff.mpr (hnone.2 _ hmem))
  | map => cases hkey

end Reordered

end Value

namespace Literal

/-! ### Sorting the members of a set -/

/-- The members of a set, each with its shown text. -/
theorem ofMembers_eq (inRecord : Bool) (items : List Value) :
    ofMembers inRecord items = items.map fun x => (x.shown, ofValueIn inRecord x) := by
  induction items with
  | nil => rfl
  | cons x xs ih => rw [ofMembers, ih, List.map_cons]

/-- Sorting forgets the order of items that their texts tell apart. Items with one text would stay
in the order in which they came, since the sort is stable. -/
theorem sortedByText_perm {items others : List (List CodePoint × Literal)} (h : items.Perm others)
    (hinj : ∀ a ∈ items, ∀ b ∈ items, a.1 = b.1 → a = b) :
    sortedByText items = sortedByText others := by
  have hsorted (l : List (List CodePoint × Literal)) :
      (l.mergeSort fun a b => textLe a.1 b.1).Pairwise fun a b => textLe a.1 b.1 = true :=
    List.pairwise_mergeSort (fun a b c => textLe_trans a.1 b.1 c.1)
      (fun a b => textLe_total a.1 b.1) l
  have hmem {l : List (List CodePoint × Literal)} {a : List CodePoint × Literal}
      (ha : a ∈ l.mergeSort fun a b => textLe a.1 b.1) : a ∈ l :=
    (List.mergeSort_perm l _).mem_iff.mp ha
  -- Both sorts are sorted and have the same items, so they are one list.
  have hperm := ((List.mergeSort_perm items fun a b => textLe a.1 b.1).trans h).trans
    (List.mergeSort_perm others fun a b => textLe a.1 b.1).symm
  rw [sortedByText, sortedByText, List.Perm.eq_of_pairwise (fun a b ha hb hab hba => hinj a
    (hmem ha) b (h.mem_iff.mpr (hmem hb)) (textLe_antisymm a.1 b.1 hab hba))
    (hsorted items) (hsorted others) hperm]

/-- The literal of a set of keys does not depend on their order: members that are shown alike are
the same value, so the sort has one result. -/
theorem ofValueIn_set_perm (frozen : Bool) {items others : List Value}
    (hplain : ∀ x ∈ items, x.IsPlain) (hkeys : ∀ x ∈ items, x.isKey = true)
    (h : items.Perm others) :
    ofValueIn false (.set frozen items) = ofValueIn false (.set frozen others) := by
  rw [ofValueIn, ofValueIn, ofMembers_eq, ofMembers_eq]
  refine congrArg Literal.list (sortedByText_perm (h.map _) fun a ha b hb hab => ?_)
  obtain ⟨x, hx, rfl⟩ := List.mem_map.mp ha
  obtain ⟨y, hy, rfl⟩ := List.mem_map.mp hb
  rw [Value.eq_of_shown_eq (hplain x hx) (hkeys x hx) (hplain y hy) (hkeys y hy) hab]

/-- One item alone is not sorted. -/
theorem sortedByText_of_length_le {items : List (List CodePoint × Literal)} (h : items.length ≤ 1) :
    sortedByText items = items.map (·.2) := by
  cases items with
  | nil => rw [sortedByText, List.mergeSort_nil]
  | cons item others =>
      obtain rfl : others = [] := by
        rw [List.length_cons] at h
        exact List.length_eq_zero_iff.mp (by omega)
      rw [sortedByText, List.mergeSort_singleton]

/-- Of two items the one with the lesser text comes first. Sets of two are small enough to be sorted
by hand. -/
theorem sortedByText_pair (a b : List CodePoint × Literal) :
    sortedByText [a, b] = if textLe a.1 b.1 then [a.2, b.2] else [b.2, a.2] := by
  have hsorted : [a, b].mergeSort (fun a b => textLe a.1 b.1)
      = if textLe a.1 b.1 then [a, b] else [b, a] := by
    simp [List.mergeSort, List.merge]
  rw [sortedByText, hsorted]
  split <;> rfl

/-- The literal of a set of two members, which is decided by one comparison of the texts that they
are shown as. -/
theorem ofValueIn_set_pair (inRecord frozen : Bool) (x y : Value) :
    ofValueIn inRecord (.set frozen [x, y])
      = .list (if textLe x.shown y.shown then [ofValueIn inRecord x, ofValueIn inRecord y]
          else [ofValueIn inRecord y, ofValueIn inRecord x]) :=
  congrArg Literal.list
    (sortedByText_pair (x.shown, ofValueIn inRecord x) (y.shown, ofValueIn inRecord y))

end Literal

namespace Value

open Literal

/-! ### Literals -/

/-- A value that is built from scalars and containers can be written. There is no record in it to
spoil a set. -/
theorem IsPlain.isWritableIn {v : Value} (h : v.IsPlain) : isWritableIn false v = true := by
  induction h with
  | list _ ih =>
      rw [Value.isWritableIn, areWritable_eq]
      exact List.all_eq_true.mpr ih
  | tuple _ ih =>
      rw [Value.isWritableIn, areWritable_eq]
      exact List.all_eq_true.mpr ih
  -- Only inside a record could a set not be written.
  | set _ _ _ ih =>
      rw [Value.isWritableIn, areWritable_eq, Bool.false_and]
      exact List.all_eq_true.mpr ih
  | map _ _ _ _ ih =>
      rw [Value.isWritableIn, areEntriesWritable_eq]
      exact List.all_eq_true.mpr ih
  | _ => rfl

/-- Items without foreign leaves have none together. -/
theorem foreignItem?_of_forall {items : List Literal} (h : ∀ x ∈ items, x.foreign? = none) :
    foreignItem? items = none := by
  induction items with
  | nil => rfl
  | cons x xs ih =>
      rw [foreignItem?, h x List.mem_cons_self, ih fun y hy => h y (List.mem_cons_of_mem _ hy)]
      rfl

/-- Fields without foreign leaves have none together. -/
theorem foreignField?_of_forall {fields : List (Text × Literal)}
    (h : ∀ field ∈ fields, field.2.foreign? = none) : foreignField? fields = none := by
  induction fields with
  | nil => rfl
  | cons field rest ih =>
      rw [foreignField?, h field List.mem_cons_self, ih fun f hf => h f (List.mem_cons_of_mem _ hf)]
      rfl

/-- The literal of a value that is built from scalars and containers has no foreign leaf, so it has
a text. -/
theorem IsPlain.foreign?_ofValueIn {v : Value} (h : v.IsPlain) :
    (ofValueIn false v).foreign? = none := by
  induction h with
  | list _ ih =>
      rw [ofValueIn, ofItems_eq, foreign?]
      exact foreignItem?_of_forall (List.forall_mem_map.mpr ih)
  | tuple _ ih =>
      rw [ofValueIn, ofItems_eq, foreign?]
      exact foreignItem?_of_forall (List.forall_mem_map.mpr ih)
  | set _ _ _ ih =>
      rw [ofValueIn, ofMembers_eq, foreign?]
      refine foreignItem?_of_forall fun x hx => ?_
      -- A sorted item is one of the items that were sorted.
      obtain ⟨member, hmember, rfl⟩ := List.mem_map.mp hx
      obtain ⟨y, hy, rfl⟩ := List.mem_map.mp ((List.mergeSort_perm _ _).mem_iff.mp hmember)
      exact ih y hy
  | map _ _ _ _ ih =>
      rw [ofValueIn, ofEntries_eq, foreign?]
      exact foreignField?_of_forall (List.forall_mem_map.mpr ih)
  | _ => rfl

/-- Items that have the same literals in pairs have them together. This is the step for lists and
tuples. -/
theorem ofItems_pairs {pairs : List (Value × Value)}
    (h : ∀ pair ∈ pairs, ofValueIn false pair.1 = ofValueIn false pair.2) :
    ofItems false (pairs.map (·.1)) = ofItems false (pairs.map (·.2)) := by
  rw [ofItems_eq, ofItems_eq, List.map_map, List.map_map]
  exact List.map_congr_left h

/-- Where no text of a member or a key depends on the order, the literal does not, either. By
induction on how the two values differ. -/
theorem Reordered.ofValueIn_eq {v w : Value} (h : Reordered v w) (hv : v.IsPlain)
    (hfree : v.isOrderFree = true) : ofValueIn false v = ofValueIn false w := by
  induction h with
  | refl => rfl
  | @list pairs _ ih =>
      cases hv with
      | list hitems =>
          rw [isOrderFree, areOrderFree_eq, List.all_eq_true] at hfree
          refine congrArg Literal.list (ofItems_pairs fun pair hpair => ?_)
          have hmem : pair.1 ∈ pairs.map (·.1) := List.mem_map_of_mem hpair
          exact ih pair hpair (hitems _ hmem) (hfree _ hmem)
  | @tuple pairs _ ih =>
      cases hv with
      | tuple hitems =>
          rw [isOrderFree, areOrderFree_eq, List.all_eq_true] at hfree
          refine congrArg Literal.list (ofItems_pairs fun pair hpair => ?_)
          have hmem : pair.1 ∈ pairs.map (·.1) := List.mem_map_of_mem hpair
          exact ih pair hpair (hitems _ hmem) (hfree _ hmem)
  | @set frozen pairs h items hperm ih =>
      cases hv with
      | set _ hitems hkeys =>
          rw [isOrderFree, areOrderFree_eq, Bool.and_eq_true, Bool.or_eq_true,
            decide_eq_true_eq, Bool.not_eq_true', anyHoldsPair_eq, List.any_eq_false,
            List.all_eq_true, List.length_map] at hfree
          obtain ⟨hfew | hnone, hfree⟩ := hfree
          -- One member alone is not sorted, so its own sets may have any order.
          · have hone : items = pairs.map (·.2) := by
              refine (eq_of_perm_of_length_le hperm ?_).symm
              rwa [List.length_map]
            rw [hone, ofValueIn, ofValueIn, ofMembers_eq, ofMembers_eq,
              sortedByText_of_length_le (by simpa using hfew),
              sortedByText_of_length_le (by simpa using hfew), List.map_map, List.map_map,
              List.map_map, List.map_map]
            refine congrArg Literal.list (List.map_congr_left fun pair hpair => ?_)
            have hmem : pair.1 ∈ pairs.map (·.1) := List.mem_map_of_mem hpair
            exact ih pair hpair (hitems _ hmem) (hfree _ hmem)
          -- The members are the same, so only their order is left to forget.
          · have hsame : pairs.map (·.1) = pairs.map (·.2) := by
              refine map_fst_eq_map_snd fun pair hpair => ?_
              have hmem : pair.1 ∈ pairs.map (·.1) := List.mem_map_of_mem hpair
              exact (h pair hpair).eq_of_holdsPair (hitems _ hmem) (hkeys _ hmem)
                (Bool.eq_false_iff.mpr (hnone _ hmem))
            rw [← hsame] at hperm
            exact ofValueIn_set_perm frozen hitems hkeys hperm
  | @map pairs hkey _ _ ih =>
      cases hv with
      | map hentries hkeys hvalues =>
          rw [isOrderFree, areEntriesOrderFree_eq, List.all_eq_true] at hfree
          rw [ofValueIn, ofValueIn, ofEntries_eq, ofEntries_eq, List.map_map, List.map_map]
          refine congrArg Literal.object (List.map_congr_left fun pair hpair => ?_)
          have hmem : pair.1 ∈ pairs.map (·.1) := List.mem_map_of_mem hpair
          have hentry := hfree _ hmem
          rw [Bool.and_eq_true, Bool.not_eq_true'] at hentry
          have hsame := (hkey pair hpair).eq_of_holdsPair (hentries _ hmem) (hkeys _ hmem) hentry.1
          show (pair.1.1.plainString, ofValueIn false pair.1.2)
            = (pair.2.1.plainString, ofValueIn false pair.2.2)
          rw [hsame, ih pair hpair (hvalues _ hmem) hentry.2]

/-- **The order of sets is forgotten.** Two values that are built from scalars and containers, and
that differ in the order in which their sets are gone through, have the same literal and so the same
text, when no key of a mapping and no member of a set with others beside it holds a set of two or
more members. -/
theorem reordered_sameText {v w : Value} (hv : v.IsPlain) (hfree : v.isOrderFree = true)
    (h : Reordered v w) :
    ∃ literal, v.toLiteral = .ok literal ∧ w.toLiteral = .ok literal ∧
      literal.render = .ok v.literalText := by
  refine ⟨ofValue v, ?_, ?_, ?_⟩
  · rw [toLiteral, isWritable, hv.isWritableIn, if_pos rfl]
  · rw [toLiteral, isWritable, (h.isPlain hv).isWritableIn, if_pos rfl, ofValue, ofValue,
      h.ofValueIn_eq hv hfree]
  · rw [render, ofValue, hv.foreign?_ofValueIn]
    rfl

/-! ### Two orders of one set -/

/-- A set of two numbers that is gone through downwards. -/
def downwards : Value := .set true [.int 8, .int 0]

/-- The same set, gone through upwards. -/
def upwards : Value := .set true [.int 0, .int 8]

/-- The set is built from numbers. -/
theorem isPlain_downwards : downwards.IsPlain := by
  refine .set true ?_ (List.forall_mem_cons.mpr ⟨rfl, List.forall_mem_singleton.mpr rfl⟩)
  exact List.forall_mem_cons.mpr ⟨.int 8, List.forall_mem_singleton.mpr (.int 0)⟩

/-- The two differ in their order only. -/
theorem reordered_downwards : Reordered downwards upwards :=
  @Reordered.set true [(.int 8, .int 8), (.int 0, .int 0)]
    (List.forall_mem_cons.mpr ⟨.refl _, List.forall_mem_singleton.mpr (.refl _)⟩) _
    (List.Perm.swap ..)

/-- Two sets: one whose members have no sets of two or more in them, and one with a single member,
which is such a set. -/
def spread : Value :=
  .map [(.text "ids", .set false [.int 8, .int 0, .tuple [.text "a", .set true [.null]]]),
    (.text "one", .set false [downwards])]

/-- The same sets, with the numbers gone through upwards. -/
def spreadBack : Value :=
  .map [(.text "ids", .set false [.int 0, .int 8, .tuple [.text "a", .set true [.null]]]),
    (.text "one", .set false [upwards])]

/-- The main fact at `spread` and `spreadBack`. -/
theorem reordered_sameText_spread :
    spread.IsPlain ∧ spread.isOrderFree = true ∧ Reordered spread spreadBack ∧
    ∃ literal, spread.toLiteral = .ok literal ∧ spreadBack.toLiteral = .ok literal ∧
      literal.render = .ok spread.literalText := by
  have hplain : spread.IsPlain := by
    refine .map (List.forall_mem_cons.mpr ⟨.text _, List.forall_mem_singleton.mpr (.text _)⟩)
      (List.forall_mem_cons.mpr ⟨rfl, List.forall_mem_singleton.mpr rfl⟩)
      (List.forall_mem_cons.mpr ⟨.set false ?_ ?_, List.forall_mem_singleton.mpr ?_⟩)
    · refine List.forall_mem_cons.mpr ⟨.int 8, List.forall_mem_cons.mpr ⟨.int 0,
        List.forall_mem_singleton.mpr (.tuple ?_)⟩⟩
      exact List.forall_mem_cons.mpr ⟨.text "a", List.forall_mem_singleton.mpr
        (.set true (List.forall_mem_singleton.mpr .null) (List.forall_mem_singleton.mpr rfl))⟩
    · exact List.forall_mem_cons.mpr ⟨rfl, List.forall_mem_cons.mpr ⟨rfl,
        List.forall_mem_singleton.mpr rfl⟩⟩
    · exact .set false (List.forall_mem_singleton.mpr isPlain_downwards)
        (List.forall_mem_singleton.mpr rfl)
  -- The order differs in the set of identifiers, and in the only member of the other set.
  have hids : Reordered (.set false [.int 8, .int 0, .tuple [.text "a", .set true [.null]]])
      (.set false [.int 0, .int 8, .tuple [.text "a", .set true [.null]]]) :=
    @Reordered.set false [(.int 8, .int 8), (.int 0, .int 0),
      (.tuple [.text "a", .set true [.null]], .tuple [.text "a", .set true [.null]])]
      (List.forall_mem_cons.mpr ⟨.refl _, List.forall_mem_cons.mpr ⟨.refl _,
        List.forall_mem_singleton.mpr (.refl _)⟩⟩) _ (List.Perm.swap ..)
  have hone : Reordered (.set false [downwards]) (.set false [upwards]) :=
    @Reordered.set false [(downwards, upwards)]
      (List.forall_mem_singleton.mpr reordered_downwards) _ (List.Perm.refl _)
  have hback : Reordered spread spreadBack :=
    @Reordered.map [((.text "ids", _), (.text "ids", _)), ((.text "one", _), (.text "one", _))]
      (List.forall_mem_cons.mpr ⟨.refl _, List.forall_mem_singleton.mpr (.refl _)⟩)
      (List.forall_mem_cons.mpr ⟨hids, List.forall_mem_singleton.mpr hone⟩)
  exact ⟨hplain, rfl, hback, reordered_sameText hplain rfl hback⟩

/-- A set of two sets of numbers, of which one is gone through downwards. -/
def nestedSet : Value := .set false [downwards, .set true [.int 5]]

/-- The same set, with these numbers gone through upwards. -/
def nestedSetBack : Value := .set false [upwards, .set true [.int 5]]

/-- **The order inside a member of a set is not forgotten.** The member is shown in this order, and
so it comes after the other one when its numbers are gone through downwards and before it
otherwise. -/
theorem nestedSet_otherText :
    nestedSet.IsPlain ∧ Reordered nestedSet nestedSetBack ∧
    nestedSet.literalText = "[[5], [0, 8]]" ∧ nestedSetBack.literalText = "[[0, 8], [5]]" := by
  have hnumber : ofValueIn false (.set true [.int 5]) = .list [.int 5] := by
    rw [ofValueIn, ofMembers_eq, sortedByText_of_length_le (by decide)]
    rfl
  refine ⟨?_, ?_, ?_, ?_⟩
  · refine .set false (List.forall_mem_cons.mpr ⟨isPlain_downwards,
      List.forall_mem_singleton.mpr ?_⟩)
      (List.forall_mem_cons.mpr ⟨rfl, List.forall_mem_singleton.mpr rfl⟩)
    exact .set true (List.forall_mem_singleton.mpr (.int 5)) (List.forall_mem_singleton.mpr rfl)
  · exact @Reordered.set false [(downwards, upwards), (.set true [.int 5], .set true [.int 5])]
      (List.forall_mem_cons.mpr ⟨reordered_downwards, List.forall_mem_singleton.mpr (.refl _)⟩) _
      (List.Perm.refl _)
  -- The two members are compared by the texts that they are shown as. These are computed, and with
  -- them the order.
  · rw [literalText, ofValue, nestedSet, ofValueIn_set_pair, if_neg (by decide), hnumber,
      downwards, ofValueIn_set_pair, if_neg (by decide)]
    decide
  · rw [literalText, ofValue, nestedSetBack, ofValueIn_set_pair, if_pos (by decide), hnumber,
      upwards, ofValueIn_set_pair, if_pos (by decide)]
    decide

end Value

end FacetSearch
