import FacetSearch.Arranged

/-!
# `FacetSearch.Proofs.Arranged`: arranging is sorting where the comparison orders the items

A comparison orders the items when it never fails on them and one goes strictly before another
exactly when the other is not below it in a total order (`Orders`). Then `arranged` gives the items
in this order: `arranged_eq_mergeSort`, where no two items are beside each other, so that there is
only one order.

Each of its parts keeps the items and makes an ordered list: the run at the start, which falls or
does not (`splitRun_eq`), the insertion by halving (`insertByHalving_eq`), and the insertions of all
further items (`foldlM_eq`).
-/

set_option autoImplicit false

namespace FacetSearch

variable {ε α : Type} {before : α → α → Except ε Bool} {le : α → α → Bool} {items : List α}

/-- A comparison that says of items which of them goes strictly before which in a total order. The
order is on all of the type and the comparison on the items alone, since it may fail on others, as
comparing a number with a text does. -/
structure Orders (before : α → α → Except ε Bool) (le : α → α → Bool) (items : List α) : Prop where
  total : ∀ a b, (le a b || le b a) = true
  trans : ∀ a b c, le a b = true → le b c = true → le a c = true
  before_eq : ∀ a ∈ items, ∀ b ∈ items, before a b = .ok (!le b a)

namespace Orders

/-- What is not below an item is above it. A comparison that answers no is used in this form. -/
theorem le_of_not (h : Orders before le items) {a b : α} (hnot : le a b = false) :
    le b a = true := by
  have htotal := h.total a b
  rwa [hnot, Bool.false_or] at htotal

/-- An item below the first of an ordered list is below all of it. -/
theorem pairwise_cons (h : Orders before le items) {a b : α} {rest : List α} (hab : le a b = true)
    (hrest : (b :: rest).Pairwise fun x y => le x y = true) :
    (a :: b :: rest).Pairwise fun x y => le x y = true := by
  refine List.Pairwise.cons (fun c hc => ?_) hrest
  rcases List.mem_cons.mp hc with rfl | hc
  · exact hab
  · exact h.trans a b c hab ((List.pairwise_cons.mp hrest).1 c hc)

/-- An item above the first of a list that falls is above all of it. -/
theorem pairwise_cons_falling (h : Orders before le items) {a b : α} {rest : List α}
    (hab : le b a = true) (hrest : (b :: rest).Pairwise fun x y => le y x = true) :
    (a :: b :: rest).Pairwise fun x y => le y x = true := by
  refine List.Pairwise.cons (fun c hc => ?_) hrest
  rcases List.mem_cons.mp hc with rfl | hc
  · exact hab
  · exact h.trans c b a ((List.pairwise_cons.mp hrest).1 c hc) hab

section

variable {item middle : α} {left right result : List α}

/-- An item that is not below the middle of an ordered list goes among those behind the middle. So
of items that are beside each other the one that came first stays first. -/
theorem insert_right (h : Orders before le items) (hle : le middle item = true)
    (hsorted : (left ++ middle :: right).Pairwise fun x y => le x y = true)
    (hperm : result.Perm (item :: right)) (hresult : result.Pairwise fun x y => le x y = true) :
    (left ++ middle :: result).Perm (item :: (left ++ middle :: right)) ∧
      (left ++ middle :: result).Pairwise fun x y => le x y = true := by
  obtain ⟨hlefts, hrights, hcross⟩ := List.pairwise_append.mp hsorted
  -- What stands behind the middle was there, or is the item.
  have hmiddle : ∀ x ∈ result, le middle x = true := by
    intro x hx
    rcases List.mem_cons.mp (hperm.mem_iff.mp hx) with rfl | hx
    · exact hle
    · exact (List.pairwise_cons.mp hrights).1 x hx
  refine ⟨(((hperm.cons middle).append_left left).trans
    ((List.Perm.swap item middle right).append_left left)).trans List.perm_middle, ?_⟩
  refine List.pairwise_append.mpr ⟨hlefts, hresult.cons hmiddle, fun x hx y hy => ?_⟩
  have hx := hcross x hx middle List.mem_cons_self
  rcases List.mem_cons.mp hy with rfl | hy
  · exact hx
  · exact h.trans x middle y hx (hmiddle y hy)

/-- An item strictly below the middle of an ordered list goes among those before the middle. -/
theorem insert_left (h : Orders before le items) (hle : le middle item = false)
    (hsorted : (left ++ middle :: right).Pairwise fun x y => le x y = true)
    (hperm : result.Perm (item :: left)) (hresult : result.Pairwise fun x y => le x y = true) :
    (result ++ middle :: right).Perm (item :: (left ++ middle :: right)) ∧
      (result ++ middle :: right).Pairwise fun x y => le x y = true := by
  obtain ⟨-, hrights, hcross⟩ := List.pairwise_append.mp hsorted
  refine ⟨hperm.append_right _, ?_⟩
  -- What stands on the left was before the middle, or is the item.
  refine List.pairwise_append.mpr ⟨hresult, hrights, fun x hx y hy => ?_⟩
  have hmiddle : le x middle = true := by
    rcases List.mem_cons.mp (hperm.mem_iff.mp hx) with rfl | hx
    · exact h.le_of_not hle
    · exact hcross x hx middle List.mem_cons_self
  rcases List.mem_cons.mp hy with rfl | hy
  · exact hmiddle
  · exact h.trans x middle y hmiddle ((List.pairwise_cons.mp hrights).1 y hy)

end

end Orders

/-- A run at the start, after its first item: what remains is kept, and the run falls or it does
not, as it was asked for. A falling run falls strictly, so turning it around swaps no two items that
are beside each other. -/
theorem splitRun_eq (h : Orders before le items) (falling : Bool) {last : α} {xs : List α}
    (hmem : ∀ x ∈ last :: xs, x ∈ items) :
    ∃ run rest, splitRun before falling last xs = .ok (run, rest) ∧ xs = run ++ rest ∧
      (last :: run).Pairwise fun x y => (if falling then le y x else le x y) = true := by
  induction xs generalizing last with
  | nil => exact ⟨[], [], rfl, rfl, List.pairwise_singleton _ _⟩
  | cons x xs ih =>
      have hbefore : before x last = .ok (!le last x) :=
        h.before_eq x (hmem x (by simp)) last (hmem last (by simp))
      -- The run goes on while each item compares with the last one as the first two did.
      by_cases hrun : (!le last x) = falling
      · obtain ⟨run, rest, hsplit, hxs, hpairwise⟩ :=
          ih fun y hy => hmem y (List.mem_cons_of_mem _ hy)
        refine ⟨x :: run, rest, ?_, congrArg (x :: ·) hxs, ?_⟩
        · rw [splitRun, hbefore]
          show (if (!le last x) = falling then _ else _) = _
          rw [if_pos hrun, hsplit]
          rfl
        · subst hrun
          cases hle : le last x with
          | true =>
              rw [hle] at hpairwise
              exact h.pairwise_cons hle hpairwise
          | false =>
              rw [hle] at hpairwise
              exact h.pairwise_cons_falling (h.le_of_not hle) hpairwise
      · refine ⟨[], x :: xs, ?_, rfl, List.pairwise_singleton _ _⟩
        rw [splitRun, hbefore]
        show (if (!le last x) = falling then _ else _) = _
        rw [if_neg hrun]
        rfl

/-- Putting an item into an ordered list by halving it adds the item and keeps the order. The
halves are shorter, so the length of the list is fuel enough. -/
theorem insertByHalving_eq (h : Orders before le items) {item : α} (hitem : item ∈ items)
    {fuel : Nat} {sorted : List α} (hfuel : sorted.length ≤ fuel)
    (hmem : ∀ x ∈ sorted, x ∈ items) (hsorted : sorted.Pairwise fun x y => le x y = true) :
    ∃ result, insertByHalving before item fuel sorted = .ok result ∧
      result.Perm (item :: sorted) ∧ result.Pairwise fun x y => le x y = true := by
  induction fuel generalizing sorted with
  | zero =>
      rw [List.length_eq_zero_iff.mp (Nat.le_zero.mp hfuel)]
      exact ⟨[item], rfl, List.Perm.refl _, List.pairwise_singleton _ _⟩
  | succ fuel ih =>
      cases hdrop : sorted.drop (sorted.length / 2) with
      | nil =>
          -- Only the empty list has an empty second half.
          have hnil : sorted = [] := by
            have hlength := List.drop_eq_nil_iff.mp hdrop
            exact List.length_eq_zero_iff.mp (by omega)
          rw [hnil]
          exact ⟨[item], rfl, List.Perm.refl _, List.pairwise_singleton _ _⟩
      | cons middle right =>
          obtain ⟨left, hleft⟩ : ∃ left, sorted.take (sorted.length / 2) = left := ⟨_, rfl⟩
          have hsplit : sorted = left ++ middle :: right := by
            rw [← hleft, ← hdrop, List.take_append_drop]
          have hhalves : sorted.splitAt (sorted.length / 2) = (left, middle :: right) := by
            rw [List.splitAt_eq, hleft, hdrop]
          clear hleft hdrop
          have hbefore : before item middle = .ok (!le middle item) :=
            h.before_eq item hitem middle (hmem middle (by simp [hsplit]))
          rw [insertByHalving, hhalves]
          subst hsplit
          obtain ⟨hlefts, hrights, -⟩ := List.pairwise_append.mp hsorted
          rw [List.length_append, List.length_cons] at hfuel
          simp only [hbefore]
          -- The item goes into one of the halves, and the other half stays where it is.
          cases hle : le middle item with
          | true =>
              obtain ⟨result, hresult, hperm, hpairwise⟩ := @ih right (by omega)
                (fun x hx => hmem x (by simp [hx])) (List.pairwise_cons.mp hrights).2
              refine ⟨left ++ middle :: result, ?_, h.insert_right hle hsorted hperm hpairwise⟩
              show (insertByHalving before item fuel right >>= _) = _
              rw [hresult]
              rfl
          | false =>
              obtain ⟨result, hresult, hperm, hpairwise⟩ := @ih left (by omega)
                (fun x hx => hmem x (by simp [hx])) hlefts
              refine ⟨result ++ middle :: right, ?_, h.insert_left hle hsorted hperm hpairwise⟩
              show (insertByHalving before item fuel left >>= _) = _
              rw [hresult]
              rfl

/-- Putting in items one after the other adds them and keeps the order. What has been put in so far
is the ordered list that the next item goes into. -/
theorem foldlM_eq (h : Orders before le items) {rest acc : List α}
    (hrest : ∀ x ∈ rest, x ∈ items) (hacc : ∀ x ∈ acc, x ∈ items)
    (hsorted : acc.Pairwise fun x y => le x y = true) :
    ∃ result, rest.foldlM (fun acc item => insertByHalving before item acc.length acc) acc
        = .ok result ∧
      result.Perm (acc ++ rest) ∧ result.Pairwise fun x y => le x y = true := by
  induction rest generalizing acc with
  | nil => exact ⟨acc, rfl, by rw [List.append_nil], hsorted⟩
  | cons item rest ih =>
      obtain ⟨next, hnext, hperm, hpairwise⟩ :=
        insertByHalving_eq h (hrest item List.mem_cons_self) (Nat.le_refl _) hacc hsorted
      -- The ordered list has grown by the item, and all of it still comes from the items.
      have hmem : ∀ x ∈ next, x ∈ items := by
        intro x hx
        rcases List.mem_cons.mp (hperm.mem_iff.mp hx) with rfl | hx
        · exact hrest x List.mem_cons_self
        · exact hacc x hx
      obtain ⟨result, hresult, hall, hordered⟩ :=
        ih (fun x hx => hrest x (List.mem_cons_of_mem _ hx)) hmem hpairwise
      refine ⟨result, ?_, hall.trans ?_, hordered⟩
      · rw [List.foldlM_cons, hnext]
        exact hresult
      · exact (hperm.append_right rest).trans List.perm_middle.symm

/-- Arranged items are the items in order, and arranging them does not fail. -/
theorem exists_arranged (h : Orders before le items) :
    ∃ result, arranged before items = .ok result ∧ result.Perm items ∧
      result.Pairwise fun x y => le x y = true := by
  -- Two items are needed for a run to fall or not.
  match items, h with
  | [], _ => exact ⟨[], rfl, List.Perm.refl _, List.Pairwise.nil⟩
  | [x], _ => exact ⟨[x], rfl, List.Perm.refl _, List.pairwise_singleton _ _⟩
  | first :: second :: others, h =>
      have hbefore : before second first = .ok (!le first second) :=
        h.before_eq second (by simp) first (by simp)
      obtain ⟨run, rest, hsplit, rfl, hrun⟩ := splitRun_eq h (!le first second)
        (fun x hx => List.mem_cons_of_mem first hx)
      -- The run is turned around when it falls.
      obtain ⟨start, hstart, hperm, hpairwise⟩ : ∃ start,
          (if (!le first second) = true then (first :: second :: run).reverse
            else first :: second :: run) = start ∧
          start.Perm (first :: second :: run) ∧ start.Pairwise fun x y => le x y = true := by
        cases hle : le first second with
        | true =>
            rw [hle] at hrun
            exact ⟨_, rfl, List.Perm.refl _, h.pairwise_cons hle hrun⟩
        | false =>
            rw [hle] at hrun
            exact ⟨_, rfl, List.reverse_perm _, List.pairwise_reverse.mpr
              (h.pairwise_cons_falling (h.le_of_not hle) hrun)⟩
      have hrest : ∀ x ∈ rest, x ∈ first :: second :: (run ++ rest) := fun x hx =>
        List.mem_append_right (first :: second :: run) hx
      have hmem : ∀ x ∈ start, x ∈ first :: second :: (run ++ rest) := fun x hx =>
        List.mem_append_left rest (hperm.mem_iff.mp hx)
      obtain ⟨result, hresult, hall, hordered⟩ := foldlM_eq h hrest hmem hpairwise
      refine ⟨result, ?_, hall.trans (hperm.append_right rest), hordered⟩
      rw [arranged, hbefore]
      show (splitRun before (!le first second) second (run ++ rest) >>= _) = _
      rw [hsplit]
      show rest.foldlM _ (if (!le first second) = true then _ else _) = _
      rw [hstart, hresult]

/-- **Arranging is sorting.** Where the comparison orders the items and no two of them are beside
each other, the arranged items are the sorted list. Both are the items in order, and there is only
one order to have them in. -/
theorem arranged_eq_mergeSort (h : Orders before le items)
    (hantisymm : ∀ a ∈ items, ∀ b ∈ items, le a b = true → le b a = true → a = b) :
    arranged before items = .ok (items.mergeSort le) := by
  obtain ⟨result, hresult, hperm, hpairwise⟩ := exists_arranged h
  have hsorted := List.pairwise_mergeSort h.trans h.total items
  have heq : result = items.mergeSort le :=
    List.Perm.eq_of_pairwise
      (fun a b ha hb => hantisymm a (hperm.mem_iff.mp ha) b
        ((List.mergeSort_perm items le).mem_iff.mp hb))
      hpairwise hsorted (hperm.trans (List.mergeSort_perm items le).symm)
  rw [hresult, heq]

end FacetSearch
