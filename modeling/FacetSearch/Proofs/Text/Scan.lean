import FacetSearch.Text.CodePoint

/-!
# `FacetSearch.Proofs.Text.Scan`: scanning the characters of a class

Readers take the longest start of a text whose characters belong to a class. When a writer has put
such characters in front of a text that stops the class, the reader takes just these. Texts are of
characters or of code points; a class of characters is one of code points too (`Stops.map_char`).
-/

set_option autoImplicit false

namespace FacetSearch

variable {α : Type} {p : α → Bool}

/-- A text does not start with a character of a class, so a reader of that class takes nothing of
it. -/
def Stops (p : α → Bool) (text : List α) : Prop :=
  ∀ c after, text = c :: after → p c = false

/-- Nothing stops every class: at the end of the input a reader takes nothing. -/
theorem Stops.nil : Stops p [] := by
  intro c after heq
  cases heq

/-- A character outside of a class stops it, whatever stands behind. -/
theorem Stops.cons {c : α} (h : p c = false) (rest : List α) : Stops p (c :: rest) := by
  intro first after heq
  cases heq
  exact h

/-- A text that stops a class stops it together with what follows, if that stops it too, for the
text may be empty. -/
theorem Stops.append {text rest : List α} (h : Stops p text) (hrest : Stops p rest) :
    Stops p (text ++ rest) := by
  cases text with
  | nil => exact hrest
  | cons c others => exact Stops.cons (h c others rfl) _

/-- What stops a class of characters stops it as code points too, where surrogates belong to no
class of characters. -/
theorem Stops.map_char {p : Char → Bool} {text : List Char} (h : Stops p text) :
    Stops (CodePoint.satisfies p) (text.map .char) := by
  cases text with
  | nil => exact Stops.nil
  | cons c rest =>
      have hc : CodePoint.satisfies p (.char c) = false := h c rest rfl
      exact Stops.cons hc _

/-- What is left when the characters of a class are dropped stops it, so a reader may go on with
it. -/
theorem stops_dropWhile (text : List α) : Stops p (text.dropWhile p) := by
  intro c after heq
  have hhead := List.head?_dropWhile_not p text
  rw [heq] at hhead
  exact hhead

/-- The characters of a class in front of what stops it are taken, these and no more. -/
theorem takeWhile_append_of_stops {text rest : List α} (htext : text.all p = true)
    (hrest : Stops p rest) : (text ++ rest).takeWhile p = text := by
  rw [List.takeWhile_append_of_pos (List.all_eq_true.mp htext)]
  cases rest with
  | nil => rw [List.takeWhile_nil, List.append_nil]
  | cons c after =>
      have hc : ¬ p c = true := Bool.eq_false_iff.mp (hrest c after rfl)
      rw [List.takeWhile_cons_of_neg hc, List.append_nil]

/-- The characters of a class in front of what stops it are dropped, and what stops it is left. -/
theorem dropWhile_append_of_stops {text rest : List α} (htext : text.all p = true)
    (hrest : Stops p rest) : (text ++ rest).dropWhile p = rest := by
  rw [List.dropWhile_append_of_pos (List.all_eq_true.mp htext)]
  cases rest with
  | nil => rfl
  | cons c after =>
      have hc : ¬ p c = true := Bool.eq_false_iff.mp (hrest c after rfl)
      rw [List.dropWhile_cons_of_neg hc]

end FacetSearch
