import FacetSearch.Text.Joined
import FacetSearch.Text.Split

/-!
# `FacetSearch.Proofs.Text.Split`: splitting what was joined

Pieces that are joined by a separator come apart at it again, when there is a piece and none holds
the separator (`partsAt_joined`). The other way round, the parts of any text join to the text again
(`joined_partsAt`), so a dotted path is told from its steps.
-/

set_option autoImplicit false

namespace FacetSearch

variable {α : Type} [DecidableEq α] {separator : α}

/-- A text without the separator is one part, also when it is empty. -/
theorem partsAt_of_not_mem {text : List α} (h : separator ∉ text) :
    partsAt separator text = [text] := by
  induction text with
  | nil => rfl
  | cons c rest ih =>
      have hc : c ≠ separator := fun heq => h (heq ▸ List.mem_cons_self)
      rw [partsAt, if_neg hc, ih fun hrest => h (List.mem_cons_of_mem _ hrest)]

/-- A piece in front of the separator is a part, and what follows the separator is split on its
own. -/
theorem partsAt_append {piece : List α} (h : separator ∉ piece) (rest : List α) :
    partsAt separator (piece ++ separator :: rest) = piece :: partsAt separator rest := by
  induction piece with
  | nil => rw [List.nil_append, partsAt, if_pos rfl]
  | cons c others ih =>
      have hc : c ≠ separator := fun heq => h (heq ▸ List.mem_cons_self)
      rw [List.cons_append, partsAt, if_neg hc, ih fun hrest => h (List.mem_cons_of_mem _ hrest)]

/-- Joined pieces come apart again. Without a piece there is nothing to come back, since the empty
text is one part. -/
theorem partsAt_joined {pieces : List (List α)} (hne : pieces ≠ [])
    (h : ∀ piece ∈ pieces, separator ∉ piece) :
    partsAt separator (joined [separator] pieces) = pieces := by
  induction pieces with
  | nil => exact absurd rfl hne
  | cons piece others ih =>
      have hpiece : separator ∉ piece := h piece List.mem_cons_self
      -- The last piece has no separator behind it, so it is a case of its own.
      cases others with
      | nil => exact partsAt_of_not_mem hpiece
      | cons next rest =>
          have hothers : partsAt separator (joined [separator] (next :: rest)) = next :: rest :=
            ih (List.cons_ne_nil _ _) fun p hp => h p (List.mem_cons_of_mem _ hp)
          rw [joined, List.append_assoc]
          show partsAt separator (piece ++ separator :: joined [separator] (next :: rest)) = _
          rw [partsAt_append hpiece, hothers]

/-- A text has a part at least, so there is a first part to put a character in front of. -/
theorem exists_partsAt (separator : α) (text : List α) :
    ∃ part parts, partsAt separator text = part :: parts := by
  cases text with
  | nil => exact ⟨[], [], rfl⟩
  | cons c rest =>
      rw [partsAt]
      split
      · exact ⟨_, _, rfl⟩
      · split <;> exact ⟨_, _, rfl⟩

/-- The parts of a text join to the text, with no condition: parts may be empty, in front, between
and behind. -/
theorem joined_partsAt (separator : α) (text : List α) :
    joined [separator] (partsAt separator text) = text := by
  induction text with
  | nil => rfl
  | cons c rest ih =>
      obtain ⟨part, parts, hparts⟩ := exists_partsAt separator rest
      rw [hparts] at ih
      rw [partsAt, hparts]
      split
      · rename_i hc
        show separator :: joined [separator] (part :: parts) = c :: rest
        rw [ih, hc]
      · -- The character goes in front of the first part, and so in front of all of them.
        have hcons : joined [separator] ((c :: part) :: parts)
            = c :: joined [separator] (part :: parts) := by
          cases parts <;> rfl
        show joined [separator] ((c :: part) :: parts) = c :: rest
        rw [hcons, ih]

/-- A dotted path is told from its steps, the empty path and paths with empty steps included. -/
theorem pathSteps_inj {path other : Text} : pathSteps path = pathSteps other ↔ path = other := by
  refine ⟨fun h => ?_, fun h => h ▸ rfl⟩
  have hparts : partsAt (CodePoint.char '.') path.toList = partsAt (.char '.') other.toList :=
    (List.map_inj_right fun _ _ => Text.ofList.inj).mp h
  have htext := congrArg (joined [.char '.']) hparts
  rw [joined_partsAt, joined_partsAt] at htext
  exact Text.toList_inj.mp htext

end FacetSearch
