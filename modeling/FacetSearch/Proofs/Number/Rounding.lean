import FacetSearch.Number.Shortest
import FacetSearch.Proofs.Number.Whole

/-!
# `FacetSearch.Proofs.Number.Rounding`: what rounds to a double

`RoundsTo m e q` says that a rational lies in the rounding interval of `m * 2 ^ e`: half a grid step
to either side, a quarter to the finer side just above a power of two, the ends included when the
significand is even. `ofRatio_of_roundsTo` proves the main fact, that `ofRatio` takes every quotient
in the interval of a positive double to this double.

The exponent that `ofRatio` picks is the exponent of the double, with one exception. A quotient just
below a power of two lies on the finer grid, where it rounds up to `2 ^ 53` steps and is carried
over. `roundQuotient_eq` and `floorLog_eq` are what is needed of the two parts of `ofRatio`.
-/

set_option autoImplicit false

namespace FacetSearch.Binary64

/-! ### The parts of rounding -/

/-- A whole number is the rounded quotient when it lies within a half of it, and strictly within
when the number is odd. Ties go to the even number, so an odd one must not be at a tie. -/
theorem roundQuotient_eq {num den n : Nat} (hden : 0 < den)
    (hlow : 2 * (n * den) ≤ 2 * num + den) (hhigh : 2 * num ≤ 2 * (n * den) + den)
    (hodd : n % 2 = 1 → 2 * (n * den) < 2 * num + den ∧ 2 * num < 2 * (n * den) + den) :
    roundQuotient num den = n := by
  have hsplit : den * (num / den) + num % den = num := Nat.div_add_mod num den
  have hrest : num % den < den := Nat.mod_lt num hden
  rw [Nat.mul_comm] at hsplit
  -- The quotient is the number itself or one less.
  have hcases : n = num / den ∨ n = num / den + 1 := by
    rcases Nat.lt_trichotomy n (num / den) with hlt | heq | hgt
    · have hstep : (n + 1) * den ≤ num / den * den := Nat.mul_le_mul_right den hlt
      rw [Nat.add_mul, Nat.one_mul] at hstep
      omega
    · exact Or.inl heq
    · rcases Nat.eq_or_lt_of_le hgt with heq | hgt
      · exact Or.inr heq.symm
      · have hstep : (num / den + 1 + 1) * den ≤ n * den := Nat.mul_le_mul_right den hgt
        rw [Nat.add_mul, Nat.add_mul, Nat.one_mul] at hstep
        omega
  have hstep : (num / den + 1) * den = num / den * den + den := by
    rw [Nat.add_mul, Nat.one_mul]
  rw [roundQuotient]
  rcases hcases with hn | hn
  -- The tests of the definition compare twice the rest with the divisor, as the bounds do.
  · rw [← hn] at hsplit ⊢
    split
    · rfl
    · split
      · omega
      · split
        · rfl
        · omega
  · rw [hn, hstep] at hlow hhigh hodd
    rw [hn]
    split
    · omega
    · split
      · rfl
      · split
        · omega
        · rfl

/-- A power of two and a quotient compare as the numbers that scale them compare. The definitions
compare whole numbers; the proofs compare rationals. -/
theorem twoTo_le_iff {num den : Nat} (hden : 0 < den) (k : Int) :
    den * twoTo k.toNat ≤ num * twoTo (-k).toNat ↔ (2 : ℚ) ^ k ≤ num / den := by
  have hscale : (0 : ℚ) < twoTo (-k).toNat := by exact_mod_cast twoTo_pos _
  have hdenq : (0 : ℚ) < den := by exact_mod_cast hden
  -- The two powers that scale the sides are one power with an integer exponent.
  rw [← twoTo_div, div_le_div_iff₀ hscale hdenq, mul_comm (twoTo k.toNat : ℚ)]
  exact_mod_cast Iff.rfl

/-- The logarithm of a quotient brackets it between two powers of two. -/
theorem floorLog_spec {num den : Nat} (hnum : 0 < num) (hden : 0 < den) :
    (2 : ℚ) ^ floorLog num den ≤ num / den ∧ (num / den : ℚ) < 2 ^ (floorLog num den + 1) := by
  have hdenq : (0 : ℚ) < den := by exact_mod_cast hden
  have hnumLow : (2 : ℚ) ^ (num.log2 : Int) ≤ num := by
    rw [zpow_natCast]
    exact_mod_cast Nat.log2_self_le (Nat.pos_iff_ne_zero.mp hnum)
  have hnumHigh : (num : ℚ) < 2 ^ ((num.log2 : Int) + 1) := by
    have hlt : num < 2 ^ (num.log2 + 1) := Nat.lt_log2_self
    exact_mod_cast hlt
  have hdenLow : (2 : ℚ) ^ (den.log2 : Int) ≤ den := by
    rw [zpow_natCast]
    exact_mod_cast Nat.log2_self_le (Nat.pos_iff_ne_zero.mp hden)
  have hdenHigh : (den : ℚ) < 2 ^ ((den.log2 : Int) + 1) := by
    have hlt : den < 2 ^ (den.log2 + 1) := Nat.lt_log2_self
    exact_mod_cast hlt
  -- The difference of the logarithms is off by one at most, which the test then decides.
  have hbelow : (2 : ℚ) ^ ((num.log2 : Int) - den.log2 - 1) ≤ num / den := by
    rw [le_div_iff₀ hdenq]
    calc (2 : ℚ) ^ ((num.log2 : Int) - den.log2 - 1) * den
        ≤ 2 ^ ((num.log2 : Int) - den.log2 - 1) * 2 ^ ((den.log2 : Int) + 1) := by gcongr
      _ = 2 ^ (num.log2 : Int) := by
          rw [← zpow_add₀ (by norm_num)]
          congr 1
          omega
      _ ≤ num := hnumLow
  have habove : (num / den : ℚ) < 2 ^ ((num.log2 : Int) - den.log2 + 1) := by
    rw [div_lt_iff₀ hdenq]
    calc (num : ℚ) < 2 ^ ((num.log2 : Int) + 1) := hnumHigh
      _ = 2 ^ ((num.log2 : Int) - den.log2 + 1) * 2 ^ (den.log2 : Int) := by
          rw [← zpow_add₀ (by norm_num)]
          congr 1
          omega
      _ ≤ 2 ^ ((num.log2 : Int) - den.log2 + 1) * den := by gcongr
  -- The test of the definition is that the quotient reaches the higher of the two powers.
  rw [floorLog]
  split
  · rename_i htest
    exact ⟨(twoTo_le_iff hden _).mp htest, habove⟩
  · rename_i htest
    rw [twoTo_le_iff hden, not_le] at htest
    rw [sub_add_cancel]
    exact ⟨hbelow, htest⟩

/-- The logarithm of a quotient is the exponent of the power of two just below it. -/
theorem floorLog_eq {num den : Nat} {k : Int} (hden : 0 < den) (hlow : (2 : ℚ) ^ k ≤ num / den)
    (hhigh : (num / den : ℚ) < 2 ^ (k + 1)) : floorLog num den = k := by
  have hnum : 0 < num := by
    have hpos : (0 : ℚ) < num / den := lt_of_lt_of_le (by positivity) hlow
    rcases Nat.eq_zero_or_pos num with hzero | hpos'
    · rw [hzero, Nat.cast_zero, zero_div] at hpos
      exact absurd hpos (lt_irrefl 0)
    · exact hpos'
  obtain ⟨hbelow, habove⟩ := floorLog_spec hnum hden
  -- Both powers bracket the quotient, so neither exponent can pass the other.
  have h₁ : floorLog num den < k + 1 :=
    (zpow_lt_zpow_iff_right₀ (by norm_num)).mp (lt_of_le_of_lt hbelow hhigh)
  have h₂ : k < floorLog num den + 1 :=
    (zpow_lt_zpow_iff_right₀ (by norm_num)).mp (lt_of_le_of_lt hlow habove)
  omega

/-! ### The rounding interval -/

/-- A rational lies in the rounding interval of `significand * 2 ^ exponent`. The ends count when
the significand is even, since ties are rounded to even. -/
def RoundsTo (significand : Nat) (exponent : Int) (q : ℚ) : Prop :=
  let i := roundingInterval significand exponent
  let unit : ℚ := 2 ^ (exponent - 2)
  if i.closed then i.low * unit ≤ q ∧ q ≤ i.high * unit
  else i.low * unit < q ∧ q < i.high * unit

variable {significand : Nat} {exponent : Int} {q : ℚ}

/-- The unit of the interval is a quarter of the grid step. -/
theorem unit_eq (exponent : Int) : (2 : ℚ) ^ (exponent - 2) = 2 ^ exponent / 4 := by
  rw [zpow_sub₀ (by norm_num)]
  norm_num

/-- The lower end of the interval is half a grid step or a quarter below the number. It is a quarter
just above a power of two, where the grid below is finer. -/
theorem low_roundingInterval (h : 0 < significand) (exponent : Int) :
    ((roundingInterval significand exponent).low : ℚ)
      = 4 * significand - if significand = twoTo 52 ∧ exponent ≠ -1074 then 1 else 2 := by
  rw [roundingInterval]
  split
  · rw [Nat.cast_sub (by omega)]
    push_cast
    rfl
  · rw [Nat.cast_sub (by omega)]
    push_cast
    rfl

/-- What rounds to a double lies within half a grid step of it, and strictly within when the
significand is odd. This is the form that `roundQuotient_of_near` asks for. -/
theorem RoundsTo.bounds (h : RoundsTo significand exponent q) (hpos : 0 < significand) :
    ((significand : ℚ) - 1 / 2 ≤ q / 2 ^ exponent ∧ q / 2 ^ exponent ≤ significand + 1 / 2) ∧
      (significand % 2 = 1 →
        (significand : ℚ) - 1 / 2 < q / 2 ^ exponent ∧
          q / 2 ^ exponent < significand + 1 / 2) := by
  have hstep : (0 : ℚ) < 2 ^ exponent := by positivity
  have hlow : (4 * significand - 2 : ℚ) ≤ (roundingInterval significand exponent).low := by
    rw [low_roundingInterval hpos]
    split
    · linarith
    · exact le_refl _
  have hhigh : ((roundingInterval significand exponent).high : ℚ) = 4 * significand + 2 := by
    rw [roundingInterval]
    push_cast
    rfl
  rw [le_div_iff₀ hstep, div_le_iff₀ hstep, lt_div_iff₀ hstep, div_lt_iff₀ hstep]
  rw [RoundsTo, unit_eq, hhigh] at h
  have hclosed : (roundingInterval significand exponent).closed = (significand % 2 == 0) := rfl
  rw [hclosed] at h
  -- The shorter lower half of a finer interval lies within the half step, so one bound serves both.
  have hscaled : (4 * significand - 2 : ℚ) * (2 ^ exponent / 4)
      ≤ (roundingInterval significand exponent).low * (2 ^ exponent / 4) := by gcongr
  split at h
  · rename_i heven
    refine ⟨⟨by linarith, by linarith⟩, fun hodd => ?_⟩
    rw [hodd] at heven
    exact absurd heven (by decide)
  · have hstrict : ((significand : ℚ) - 1 / 2) * 2 ^ exponent < q ∧
        q < (significand + 1 / 2) * 2 ^ exponent := ⟨by linarith, by linarith⟩
    exact ⟨⟨hstrict.1.le, hstrict.2.le⟩, fun _ => hstrict⟩

/-- Just above a power of two the interval is a quarter of a grid step long below the number. -/
theorem RoundsTo.low_of_finer (h : RoundsTo (twoTo 52) exponent q) (hfiner : exponent ≠ -1074) :
    (2 : ℚ) ^ 52 - 1 / 4 ≤ q / 2 ^ exponent := by
  have hstep : (0 : ℚ) < 2 ^ exponent := by positivity
  have hlow : ((roundingInterval (twoTo 52) exponent).low : ℚ) = 4 * 2 ^ 52 - 1 := by
    rw [low_roundingInterval (twoTo_pos 52), if_pos ⟨rfl, hfiner⟩]
    norm_num [twoTo]
  rw [le_div_iff₀ hstep]
  rw [RoundsTo, unit_eq, hlow] at h
  split at h
  · linarith
  · linarith

/-- A whole number rounds a quotient when it lies within a half of it, and strictly within when the
number is odd. -/
theorem roundQuotient_of_near {num den n : Nat} (hden : 0 < den)
    (hnear : (n : ℚ) - 1 / 2 ≤ num / den ∧ (num / den : ℚ) ≤ n + 1 / 2)
    (hodd : n % 2 = 1 → (n : ℚ) - 1 / 2 < num / den ∧ (num / den : ℚ) < n + 1 / 2) :
    roundQuotient num den = n := by
  have hdenq : (0 : ℚ) < den := by exact_mod_cast hden
  rw [le_div_iff₀ hdenq, div_le_iff₀ hdenq] at hnear
  rw [lt_div_iff₀ hdenq, div_lt_iff₀ hdenq] at hodd
  have hlow : (2 * (n * den) : ℚ) ≤ 2 * num + den := by linarith [hnear.1]
  have hhigh : (2 * num : ℚ) ≤ 2 * (n * den) + den := by linarith [hnear.2]
  refine roundQuotient_eq hden (by exact_mod_cast hlow) (by exact_mod_cast hhigh) fun hn => ?_
  have hlow' : (2 * (n * den) : ℚ) < 2 * num + den := by linarith [(hodd hn).1]
  have hhigh' : (2 * num : ℚ) < 2 * (n * den) + den := by linarith [(hodd hn).2]
  exact ⟨by exact_mod_cast hlow', by exact_mod_cast hhigh'⟩

/-- A quotient measured in a power of two: scaling the sides is dividing by the power. -/
theorem scaled_div_scaled (num den : Nat) (exponent : Int) :
    ((num * twoTo (-exponent).toNat : Nat) : ℚ) / ((den * twoTo exponent.toNat : Nat) : ℚ)
      = num / den / 2 ^ exponent := by
  rw [← twoTo_div, div_div_eq_mul_div, div_mul_eq_mul_div, div_div, Nat.cast_mul, Nat.cast_mul]

/-- Below a power of two and in the interval of it, a quotient rounds on the finer grid to `2 ^ 53`
steps, which are carried over to the next binade. -/
theorem ofRatio_of_finer (negative : Bool) {num den : Nat} (hden : 0 < den)
    (hcanonical : Canonical (twoTo 52) exponent) (hfiner : exponent ≠ -1074)
    (h : RoundsTo (twoTo 52) exponent (num / den))
    (hbelow : (num / den : ℚ) < 2 ^ (exponent + 52)) :
    ofRatio negative num den = .finite negative (twoTo 52) exponent hcanonical := by
  have hstep : (0 : ℚ) < 2 ^ exponent := by positivity
  have hlow : (2 : ℚ) ^ 52 - 1 / 4 ≤ num / den / 2 ^ exponent := h.low_of_finer hfiner
  have hscaled : (num / den / 2 ^ exponent : ℚ) < 2 ^ 52 := by
    rw [div_lt_iff₀ hstep, mul_comm]
    rwa [zpow_add₀ (by norm_num)] at hbelow
  have hreach : (2 : ℚ) ^ (exponent + 51) ≤ num / den := by
    rw [zpow_add₀ (by norm_num), mul_comm, ← le_div_iff₀ hstep]
    refine le_trans ?_ hlow
    norm_num
  have hnext : (num / den : ℚ) < 2 ^ (exponent + 51 + 1) := by
    rw [add_assoc]
    exact hbelow
  have hlog : floorLog num den = exponent + 51 := floorLog_eq hden hreach hnext
  have hexponent : max (-1074) (floorLog num den - 52) = exponent - 1 := by
    have hleast := hcanonical.2.1
    omega
  -- A step of the finer grid is half as long, so the quotient counts twice as many of them.
  have hhalved : (num / den / 2 ^ (exponent - 1) : ℚ) = 2 * (num / den / 2 ^ exponent) := by
    rw [zpow_sub₀ (by norm_num), zpow_one, div_div_eq_mul_div]
    ring
  have hround : roundQuotient (num * twoTo (-(exponent - 1)).toNat)
      (den * twoTo (exponent - 1).toNat) = twoTo 53 := by
    refine roundQuotient_of_near (Nat.mul_pos hden (twoTo_pos _)) ?_ fun hodd => ?_
    · rw [scaled_div_scaled, hhalved]
      have hcast : ((twoTo 53 : Nat) : ℚ) = 2 * 2 ^ 52 := by norm_num [twoTo]
      rw [hcast]
      exact ⟨by linarith, by linarith⟩
    · exact absurd hodd (by decide)
  have hnum : num ≠ 0 := by
    intro hzero
    rw [hzero, Nat.cast_zero, zero_div, zero_div] at hlow
    norm_num at hlow
  rw [ofRatio, if_neg hnum]
  -- The carry halves the steps again and puts the number back on its own grid.
  simp only [hexponent, hround, sub_add_cancel]
  rw [if_pos trivial, ofScaled, dif_pos hcanonical]

/-- **Rounding returns the double of an interval.** A quotient in the rounding interval of a
positive double is taken to this double, with the sign given. -/
theorem ofRatio_of_roundsTo (negative : Bool) {num den : Nat}
    (hcanonical : Canonical significand exponent) (hpos : 0 < significand) (hden : 0 < den)
    (h : RoundsTo significand exponent (num / den)) :
    ofRatio negative num den = .finite negative significand exponent hcanonical := by
  obtain ⟨hbound, hleast, hmost, hnormal⟩ := id hcanonical
  obtain ⟨hnear, hodd⟩ := h.bounds hpos
  have hstep : (0 : ℚ) < 2 ^ exponent := by positivity
  have hbig : (significand : ℚ) + 1 ≤ 2 ^ 53 := by exact_mod_cast hbound
  have hposq : (1 : ℚ) ≤ significand := by exact_mod_cast hpos
  by_cases hfiner : exponent ≠ -1074 ∧ (num / den : ℚ) < 2 ^ (exponent + 52)
  · obtain ⟨hexponent, hbelow⟩ := hfiner
    -- Only the least significand of a binade reaches below it.
    have hleastOne : significand = twoTo 52 := by
      have hge : twoTo 52 ≤ significand := hnormal.resolve_left hexponent
      refine (Nat.eq_or_lt_of_le hge).elim Eq.symm fun hgt => ?_
      have hgtq : (2 : ℚ) ^ 52 + 1 ≤ significand := by exact_mod_cast hgt
      have hscaled : (num / den / 2 ^ exponent : ℚ) < 2 ^ 52 := by
        rw [div_lt_iff₀ hstep, mul_comm]
        rwa [zpow_add₀ (by norm_num)] at hbelow
      linarith [hnear.1]
    subst hleastOne
    exact ofRatio_of_finer negative hden hcanonical hexponent h hbelow
  -- In every other case the quotient lies on the grid of the double.
  · have hscaledPos : (0 : ℚ) < num / den / 2 ^ exponent := by linarith [hnear.1]
    have hnum : num ≠ 0 := by
      intro hzero
      rw [hzero, Nat.cast_zero, zero_div, zero_div] at hscaledPos
      exact lt_irrefl 0 hscaledPos
    have hbelow : (num / den : ℚ) < 2 ^ (exponent + 52 + 1) := by
      rw [add_assoc, zpow_add₀ (by norm_num), mul_comm, ← div_lt_iff₀ hstep]
      have hpow : (2 : ℚ) ^ (52 + 1 : Int) = 2 ^ 53 := rfl
      linarith [hnear.2]
    -- Subnormals share the least exponent, whatever the logarithm is.
    have hexponent : max (-1074) (floorLog num den - 52) = exponent := by
      by_cases hsubnormal : exponent = -1074
      · have hreach := (floorLog_spec (Nat.pos_of_ne_zero hnum) hden).1
        have hlog : floorLog num den < exponent + 52 + 1 :=
          (zpow_lt_zpow_iff_right₀ (by norm_num)).mp (lt_of_le_of_lt hreach hbelow)
        omega
      · have hreach : (2 : ℚ) ^ (exponent + 52) ≤ num / den :=
          not_lt.mp fun hlt => hfiner ⟨hsubnormal, hlt⟩
        have hlog : floorLog num den = exponent + 52 := floorLog_eq hden hreach hbelow
        omega
    have hround : roundQuotient (num * twoTo (-exponent).toNat) (den * twoTo exponent.toNat)
        = significand := by
      refine roundQuotient_of_near (Nat.mul_pos hden (twoTo_pos _)) ?_ ?_
      · rwa [scaled_div_scaled]
      · rwa [scaled_div_scaled]
    have hsmall : significand ≠ twoTo 53 := Nat.ne_of_lt hbound
    rw [ofRatio, if_neg hnum]
    simp only [hexponent, hround]
    rw [if_neg hsmall, ofScaled, dif_pos hcanonical]

end FacetSearch.Binary64
