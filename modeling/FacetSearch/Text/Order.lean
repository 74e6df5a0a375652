import FacetSearch.Text.CodePoint

/-!
# `FacetSearch.Text.Order`: texts by code point

Texts are compared code point by code point, and a text comes before its extensions. This is a total
order: `textLe_total`, `textLe_trans` and `textLe_antisymm`.
-/

set_option autoImplicit false

namespace FacetSearch

/-- Whether a text comes before another or is the same. Code points compare by their numbers, and a
text comes before all that it starts. -/
def textLe : List CodePoint → List CodePoint → Bool
  | [], _ => true
  | _ :: _, [] => false
  | a :: as, b :: bs => if a = b then textLe as bs else decide (a.toNat < b.toNat)

/-- Of two texts one comes first, so any texts can be sorted. -/
theorem textLe_total (as bs : List CodePoint) : (textLe as bs || textLe bs as) = true := by
  induction as generalizing bs with
  | nil => simp [textLe]
  | cons a as ih =>
      cases bs with
      | nil => simp [textLe]
      | cons b bs =>
          by_cases h : a = b
          · simpa [textLe, h] using ih bs
          · have hne : a.toNat ≠ b.toNat := fun hn => h (CodePoint.toNat_inj hn)
            simp only [textLe, h, Ne.symm h, if_false, Bool.or_eq_true, decide_eq_true_eq]
            omega

/-- The order is transitive. The induction is on the first text, and the first difference
decides. -/
theorem textLe_trans (as bs cs : List CodePoint) (hab : textLe as bs = true)
    (hbc : textLe bs cs = true) : textLe as cs = true := by
  induction as generalizing bs cs with
  | nil => simp [textLe]
  | cons a as ih =>
      cases bs with
      | nil => simp [textLe] at hab
      | cons b bs =>
          cases cs with
          | nil => simp [textLe] at hbc
          | cons c cs =>
              by_cases hb : a = b
              · subst hb
                by_cases hc : a = c
                · simp only [textLe, hc, if_true] at hab hbc ⊢
                  exact ih bs cs hab hbc
                · simpa [textLe, hc] using hbc
              · by_cases hc : b = c
                · subst hc
                  simpa [textLe, hb] using hab
                · simp only [textLe, hb, hc, if_false, decide_eq_true_eq] at hab hbc
                  have hac : a ≠ c := fun he => by subst he; omega
                  simp only [textLe, hac, if_false, decide_eq_true_eq]
                  omega

/-- Two texts that come before each other are one text, so a sorted list is told by its members. -/
theorem textLe_antisymm (as bs : List CodePoint) (hab : textLe as bs = true)
    (hba : textLe bs as = true) : as = bs := by
  induction as generalizing bs with
  | nil =>
      cases bs with
      | nil => rfl
      | cons b bs => simp [textLe] at hba
  | cons a as ih =>
      cases bs with
      | nil => simp [textLe] at hab
      | cons b bs =>
          by_cases h : a = b
          · subst h
            simp only [textLe, if_true] at hab hba
            rw [ih bs hab hba]
          · simp only [textLe, h, Ne.symm h, if_false, decide_eq_true_eq] at hab hba
            omega

end FacetSearch
