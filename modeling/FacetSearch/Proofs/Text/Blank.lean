import FacetSearch.Text.Blank
import Mathlib.Data.List.TakeWhile

/-!
# `FacetSearch.Proofs.Text.Blank`: what trimming leaves

Trimming leaves nothing of a text whose characters are all of the class that is trimmed
(`trimBy_of_all`), and forgets such a text before and behind another (`trimBy_padded`).
-/

set_option autoImplicit false

namespace FacetSearch

variable {α : Type} {blank : α → Bool}

/-- Nothing is left of a text of blanks, so such a text counts as empty after trimming. -/
theorem trimBy_of_all {text : List α} (h : text.all blank = true) : trimBy blank text = [] := by
  rw [trimBy, List.dropWhile_eq_nil_iff.mpr (List.all_eq_true.mp h)]
  rfl

/-- Blanks around a text make no difference to what trimming leaves of it. The text itself may be
all blank, or start and end with blanks. -/
theorem trimBy_padded {lead trail : List α} (hlead : lead.all blank = true)
    (htrail : trail.all blank = true) (text : List α) :
    trimBy blank (lead ++ text ++ trail) = trimBy blank text := by
  have htrail' : ∀ c ∈ trail, blank c = true := List.all_eq_true.mp htrail
  rw [trimBy, trimBy, List.append_assoc, List.dropWhile_append_of_pos (List.all_eq_true.mp hlead),
    List.dropWhile_append]
  -- When the text is all blank, the blanks behind it fall to the first pass. Otherwise they are
  -- behind what is left of it, and fall to the second.
  split
  · rename_i hempty
    rw [List.isEmpty_iff.mp hempty, List.dropWhile_eq_nil_iff.mpr htrail']
  · rw [List.reverse_append,
      List.dropWhile_append_of_pos fun c hc => htrail' c (List.mem_reverse.mp hc)]

end FacetSearch
