import FacetSearch.Proofs.Text.Scan
import FacetSearch.Text.Joined

/-!
# `FacetSearch.Proofs.Text.Joined`: joined pieces are told apart

Pieces joined by commas can be taken apart again when each piece tells where it ends: what follows a
piece is a comma with other pieces behind it, or the character that closes them all. This is
`joined_append_inj`, for any gap behind the commas.
-/

set_option autoImplicit false

namespace FacetSearch

/-- A piece in front of others is followed by the separator and them, or by what follows all of them
when it is the last one. -/
theorem joined_cons_append {β : Type} (separator piece : List β) (pieces : List (List β))
    (rest : List β) :
    joined separator (piece :: pieces) ++ rest
      = piece ++
        (if pieces = [] then rest else separator ++ (joined separator pieces ++ rest)) := by
  cases pieces with
  | nil => rfl
  | cons next others => simp [joined]

/-- What stands in joined pieces stands in the separator or in a piece, so joining brings in nothing
else. -/
theorem mem_joined {β : Type} {separator : List β} {pieces : List (List β)} {x : β}
    (h : x ∈ joined separator pieces) : x ∈ separator ∨ ∃ piece ∈ pieces, x ∈ piece := by
  induction pieces with
  | nil => cases h
  | cons piece others ih =>
      cases others with
      | nil => exact Or.inr ⟨piece, List.mem_cons_self, h⟩
      | cons next rest =>
          rw [joined, List.mem_append, List.mem_append] at h
          rcases h with (h | h) | h
          · exact Or.inr ⟨piece, List.mem_cons_self, h⟩
          · exact Or.inl h
          · exact (ih h).imp_right fun ⟨p, hp, hx⟩ => ⟨p, List.mem_cons_of_mem _ hp, hx⟩

/-- Items are told by the text of their pieces and the closing character behind them, as soon as
each piece tells its item. -/
theorem joined_append_inj {α β : Type} {p : β → Bool} {comma : β} (gap : List β)
    (piece : α → List β) (close : β) (hcomma : p comma = false) (hclose : close ≠ comma)
    (hstops : p close = false)
    {xs ys : List α} (hne : ∀ x, x ∈ xs ∨ x ∈ ys → ∃ c tail, piece x = c :: tail ∧ c ≠ close)
    (hinj : ∀ x ∈ xs, ∀ y ∈ ys, ∀ rest rest', Stops p rest → Stops p rest' →
      piece x ++ rest = piece y ++ rest' → x = y ∧ rest = rest')
    {rest rest' : List β}
    (heq : joined (comma :: gap) (xs.map piece) ++ close :: rest
      = joined (comma :: gap) (ys.map piece) ++ close :: rest') : xs = ys ∧ rest = rest' := by
  -- On the items of one side, with the other side free. The first piece tells its item and leaves
  -- equal rests, which show whether there are more.
  induction xs generalizing ys with
  | nil =>
      cases ys with
      | nil => exact ⟨rfl, (List.cons.inj heq).2⟩
      | cons y ys =>
          obtain ⟨c, tail, htext, hc⟩ := hne y (Or.inr List.mem_cons_self)
          rw [List.map_cons, joined_cons_append, htext] at heq
          exact absurd (List.cons.inj heq).1.symm hc
  | cons x xs ih =>
      cases ys with
      | nil =>
          obtain ⟨c, tail, htext, hc⟩ := hne x (Or.inl List.mem_cons_self)
          rw [List.map_cons, joined_cons_append, htext] at heq
          exact absurd (List.cons.inj heq).1 hc
      | cons y ys =>
          -- What follows a first piece stops the class in both cases, which is what the piece needs
          -- to tell its item.
          have hafter (zs : List α) (after : List β) : Stops p
              (if zs.map piece = [] then close :: after
                else comma :: gap ++ (joined (comma :: gap) (zs.map piece) ++ close :: after)) := by
            split
            · exact Stops.cons hstops after
            · exact Stops.cons hcomma _
          rw [List.map_cons, List.map_cons, joined_cons_append, joined_cons_append] at heq
          obtain ⟨rfl, hbehind⟩ := hinj x List.mem_cons_self y List.mem_cons_self _ _
            (hafter xs rest) (hafter ys rest') heq
          -- Behind both first pieces stands the closing character, or a comma and the other pieces.
          cases xs with
          | nil =>
              cases ys with
              | nil => exact ⟨rfl, (List.cons.inj hbehind).2⟩
              | cons y ys => exact absurd (List.cons.inj hbehind).1 hclose
          | cons x' xs =>
              cases ys with
              | nil => exact absurd (List.cons.inj hbehind).1.symm hclose
              | cons y' ys =>
                  obtain ⟨hitems, hrest⟩ := @ih (y' :: ys)
                    (fun z hz => hne z (hz.imp (List.mem_cons_of_mem _) (List.mem_cons_of_mem _)))
                    (fun z hz z' hz' => hinj z (List.mem_cons_of_mem _ hz) z'
                      (List.mem_cons_of_mem _ hz'))
                    (List.append_cancel_left (List.cons.inj hbehind).2)
                  exact ⟨congrArg (x :: ·) hitems, hrest⟩

end FacetSearch
