import FacetSearch.Json.Read
import FacetSearch.Text.Quoted

/-!
# `FacetSearch.Proofs.Text.Quoted`: the three ways to write a character in JSON quotes

A character is written as a short escape, as the escape of its unit, or as itself. Whatever is said
about quoted strings goes along these three cases (`jsonEscape_cases`).
-/

set_option autoImplicit false

namespace FacetSearch

/-- A character with a short escape is written as a backslash and the letter that reads back to it.
Another control character is written as the escape of its unit, and any other character as itself.
-/
theorem jsonEscape_cases (c : Char) :
    (∃ letter, Json.shortEscape? letter = some c ∧ jsonEscape c = ['\\', letter]) ∨
      (c.toNat < 32 ∧ jsonEscape c = unitEscape c.toNat) ∨
      (c ≠ '"' ∧ c ≠ '\\' ∧ ¬ c.toNat < 32 ∧ jsonEscape c = [c]) := by
  -- The seven characters with a short escape, one by one, then the other control characters, and
  -- all others at last.
  rw [jsonEscape]
  by_cases hquote : c = '"'
  · exact Or.inl ⟨'"', by rw [hquote]; rfl, by rw [if_pos hquote]⟩
  rw [if_neg hquote]
  by_cases hslash : c = '\\'
  · exact Or.inl ⟨'\\', by rw [hslash]; rfl, by rw [if_pos hslash]⟩
  rw [if_neg hslash]
  by_cases hline : c = '\n'
  · exact Or.inl ⟨'n', by rw [hline]; rfl, by rw [if_pos hline]⟩
  rw [if_neg hline]
  by_cases hreturn : c = '\r'
  · exact Or.inl ⟨'r', by rw [hreturn]; rfl, by rw [if_pos hreturn]⟩
  rw [if_neg hreturn]
  by_cases htab : c = '\t'
  · exact Or.inl ⟨'t', by rw [htab]; rfl, by rw [if_pos htab]⟩
  rw [if_neg htab]
  by_cases hback : c.toNat = 8
  · exact Or.inl ⟨'b', by rw [← Char.ofNat_toNat c, hback]; rfl, by rw [if_pos hback]⟩
  rw [if_neg hback]
  by_cases hfeed : c.toNat = 12
  · exact Or.inl ⟨'f', by rw [← Char.ofNat_toNat c, hfeed]; rfl, by rw [if_pos hfeed]⟩
  rw [if_neg hfeed]
  by_cases hcontrol : c.toNat < 32
  · exact Or.inr (Or.inl ⟨hcontrol, by rw [if_pos hcontrol]⟩)
  · exact Or.inr (Or.inr ⟨hquote, hslash, hcontrol, by rw [if_neg hcontrol]⟩)

end FacetSearch
