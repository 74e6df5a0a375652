import FacetSearch.Text
import Mathlib.Data.List.Basic

/-!
# `FacetSearch.Proofs.Text.CodePoint`: code points and their numbers

Escapes name a code point by its number, so a reader of escapes gives back the code point that was
written exactly when the number tells it: `CodePoint.ofUnit_toNat`. Two surrogates may stand for one
character when they are read together, which no character can, since its number is no surrogate's
(`CodePoint.isHigh_toNat_char`).
-/

set_option autoImplicit false

namespace FacetSearch

namespace CodePoint

/-- A character is no high surrogate: its number lies outside the range of the surrogates. -/
theorem isHigh_toNat_char (c : Char) : isHigh c.toNat = false := by
  have hvalid := toNat_lt_or_lt_toNat c
  rw [isHigh, Bool.and_eq_false_iff, decide_eq_false_iff_not, decide_eq_false_iff_not]
  omega

/-- A character is no low surrogate either, for the same reason: both halves of the range are closed
to characters. -/
theorem isLow_toNat_char (c : Char) : isLow c.toNat = false := by
  have hvalid := toNat_lt_or_lt_toNat c
  rw [isLow, Bool.and_eq_false_iff, decide_eq_false_iff_not, decide_eq_false_iff_not]
  omega

/-- Every code point is the one of its number, so a text can be kept as its numbers and read back
without loss. -/
@[simp]
theorem ofUnit_toNat (point : CodePoint) : ofUnit point.toNat = point := by
  cases point with
  | char c =>
      have hvalid := toNat_lt_or_lt_toNat c
      rw [toNat, ofUnit, dif_neg (by omega), Char.ofNat_toNat]
  | surrogate offset =>
      have hoffset := offset.isLt
      rw [toNat, ofUnit, dif_pos (by omega)]
      exact congrArg _ (Fin.ext (by simp))

/-- A unit stands for the code point of its number, or for a character. In both cases it is a
surrogate only when its number is one's. -/
theorem ofUnit_cases (unit : Nat) :
    (ofUnit unit).toNat = unit ∨ ∃ c, ofUnit unit = .char c := by
  rw [ofUnit]
  split
  · rename_i hsurrogate
    exact Or.inl (Nat.add_sub_cancel' hsurrogate.1)
  · exact Or.inr ⟨_, rfl⟩

/-- Code points have numbers up to a last one, so eight hexadecimal digits are enough for each of
them. -/
theorem toNat_lt (point : CodePoint) : point.toNat < 1114112 := by
  cases point with
  | char c => exact toNat_lt_of_char c
  | surrogate offset =>
      have hoffset := offset.isLt
      rw [toNat]
      omega

end CodePoint

end FacetSearch
