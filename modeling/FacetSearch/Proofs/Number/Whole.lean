import FacetSearch.Number.Numeral
import Mathlib.Algebra.Order.Field.Power
import Mathlib.Data.Rat.Cast.Order
import Mathlib.Tactic.FieldSimp
import Mathlib.Tactic.Linarith
import Mathlib.Tactic.Positivity
import Mathlib.Tactic.Ring

/-!
# `FacetSearch.Proofs.Number.Whole`: digits and powers as numbers

The text of a natural number consists of digits, starts with a zero for zero alone, reads back as
the number, and has the length that the number's powers of ten say. A fraction of two powers of one
base, of which one is trivial, is a power with an integer exponent: this is how scaled numbers are
compared, and `twoTo_div` and `tenTo_div` take such fractions to the rationals.
-/

set_option autoImplicit false

namespace FacetSearch

/-! ### Powers -/

/-- A fraction of powers is a power with an integer exponent. One of the two powers is one, by the
sign of the exponent. -/
theorem pow_toNat_div {b : ℚ} (hb : b ≠ 0) (k : Int) :
    b ^ k.toNat / b ^ (-k).toNat = b ^ k := by
  rw [← zpow_natCast, ← zpow_natCast, ← zpow_sub₀ hb]
  congr 1
  omega

/-- A fraction of powers of two. The model splits a power with a sign into a numerator and a
denominator, and this puts the two together again. -/
theorem twoTo_div (k : Int) : (twoTo k.toNat : ℚ) / twoTo (-k).toNat = 2 ^ k := by
  have hcast : ∀ n : Nat, (twoTo n : ℚ) = 2 ^ n := by
    intro n
    exact_mod_cast rfl
  rw [hcast, hcast, pow_toNat_div (by norm_num)]

/-- A fraction of powers of ten, which the model splits in the same way. -/
theorem tenTo_div (k : Int) : (tenTo k.toNat : ℚ) / tenTo (-k).toNat = 10 ^ k := by
  have hcast : ∀ n : Nat, (tenTo n : ℚ) = 10 ^ n := by
    intro n
    exact_mod_cast rfl
  rw [hcast, hcast, pow_toNat_div (by norm_num)]

/-- Powers of two are positive. -/
theorem twoTo_pos (n : Nat) : 0 < twoTo n := Nat.pow_pos (by decide)

/-- Powers of ten are positive. -/
theorem tenTo_pos (n : Nat) : 0 < tenTo n := Nat.pow_pos (by decide)

/-! ### Digits -/

/-- The text of a number has a digit, and that of zero has one, too. -/
theorem naturalText_ne_nil (n : Nat) : naturalText n ≠ [] := Nat.toDigits_ne_nil

/-- The text of a number consists of digits. -/
theorem isDigit_of_mem_naturalText {n : Nat} {c : Char} (h : c ∈ naturalText n) :
    c.isDigit = true := Nat.isDigit_of_mem_toDigits (by decide) (by decide) h

/-- The text of a number consists of digits, as a test. -/
theorem all_isDigit_naturalText (n : Nat) : (naturalText n).all Char.isDigit = true :=
  List.all_eq_true.mpr fun _ h => isDigit_of_mem_naturalText h

/-- The digits of a number are read as the number, so the text tells the number. -/
theorem ofDigitChars_naturalText (n : Nat) : Nat.ofDigitChars 10 (naturalText n) 0 = n :=
  Nat.ofDigitChars_ten_toDigits

/-- A text of digits is read as a number, which leading zeros do not change. -/
theorem naturalOf?_of_isDigit {digits : List Char} (hne : digits ≠ [])
    (hdigits : digits.all Char.isDigit = true) :
    naturalOf? digits = some (Nat.ofDigitChars 10 digits 0) := by
  rw [naturalOf?, hdigits, List.isEmpty_eq_false_iff.mpr hne]
  rfl

/-- The number of digits says below which power of ten a number lies. -/
theorem length_naturalText_le_iff {n k : Nat} (h : 0 < k) :
    (naturalText n).length ≤ k ↔ n < 10 ^ k :=
  Nat.length_toDigits_le_iff (by decide) h

/-- A number lies below the power of ten that its digits count. -/
theorem lt_pow_length (n : Nat) : n < 10 ^ (naturalText n).length :=
  (length_naturalText_le_iff Nat.length_toDigits_pos).mp (Nat.le_refl _)

/-- A positive number reaches the power of ten below its first digit. -/
theorem pow_length_le {n : Nat} (h : 0 < n) : 10 ^ ((naturalText n).length - 1) ≤ n := by
  cases hlength : (naturalText n).length - 1 with
  | zero => exact h
  | succ k =>
      have hnot : ¬ (naturalText n).length ≤ k + 1 := by omega
      rw [length_naturalText_le_iff (Nat.succ_pos k)] at hnot
      exact Nat.le_of_not_lt hnot

/-- Digits make a number below the power of ten that they count, also when the first of them are
zeros. By induction on the digits. -/
theorem ofDigitChars_lt {digits : List Char} (hdigits : digits.all Char.isDigit = true) :
    Nat.ofDigitChars 10 digits 0 < 10 ^ digits.length := by
  induction digits with
  | nil => exact Nat.one_pos
  | cons c cs ih =>
      rw [List.all_cons, Bool.and_eq_true] at hdigits
      obtain ⟨hc, hcs⟩ := hdigits
      have hvalue : c.toNat - '0'.toNat ≤ 9 := by
        have hbound : c.toNat ≤ '9'.toNat := (Char.isDigit_iff_toNat.mp hc).2
        exact Nat.sub_le_of_le_add hbound
      have hrest : Nat.ofDigitChars 10 cs 0 < 10 ^ cs.length := ih hcs
      -- The first digit counts at most nine times the power of ten of the others.
      have hpart : 10 ^ cs.length * (c.toNat - '0'.toNat) ≤ 10 ^ cs.length * 9 :=
        Nat.mul_le_mul_left _ hvalue
      rw [Nat.ofDigitChars_cons, Nat.ofDigitChars_eq_ofDigitChars_zero, List.length_cons,
        Nat.pow_succ, Nat.mul_zero, Nat.zero_add]
      omega

/-- The text of a positive number does not start with a zero, so the readers that refuse leading
zeros take it. -/
theorem naturalText_ne_zero_cons {n : Nat} (h : 0 < n) (rest : List Char) :
    naturalText n ≠ '0' :: rest := by
  intro htext
  -- A leading zero adds nothing, so the other digits alone would have to reach the number.
  have hvalue : n = Nat.ofDigitChars 10 rest 0 := by
    rw [← ofDigitChars_naturalText n, htext]
    rfl
  have hdigits : rest.all Char.isDigit = true := by
    have hall := all_isDigit_naturalText n
    rw [htext, List.all_cons, Bool.and_eq_true] at hall
    exact hall.2
  have hreach : 10 ^ rest.length ≤ n := by
    have hle := pow_length_le h
    rwa [htext, List.length_cons, Nat.add_sub_cancel] at hle
  have hbelow : n < 10 ^ rest.length := hvalue ▸ ofDigitChars_lt hdigits
  exact absurd hbelow (Nat.not_lt_of_le hreach)

/-- A whole number is its magnitude with its sign. Writers take the two apart and readers put them
together. -/
theorem signed_natAbs (n : Int) : signed (decide (n < 0)) n.natAbs = n := by
  by_cases hneg : n < 0
  · rw [decide_eq_true hneg, signed, if_pos rfl]
    omega
  · rw [decide_eq_false hneg, signed, if_neg (by decide)]
    omega

end FacetSearch
