import FacetSearch.Proofs.Number.Rounding

/-!
# `FacetSearch.Proofs.Number.Shortest`: the shortest digits round back

`DecimalDigits.value` is the rational that a digit string with a point stands for. The main fact
`roundsTo_shortest` says that the digits which `shortest` finds for a positive double stand for a
number in its rounding interval.

The search ends with a candidate because seventeen digits suffice: the grid of that many digits is
so fine that the nearer of the two neighbours on it lies in the interval
(`isSome_bestOf_seventeen`). Dropping the trailing zeros of the candidate changes its digits and not
its value.
-/

set_option autoImplicit false

namespace FacetSearch

/-- The rational that decimal digits stand for. -/
def DecimalDigits.value (d : DecimalDigits) : ℚ :=
  Nat.ofDigitChars 10 d.digits 0 * 10 ^ (d.point - d.digits.length)

/-- Digits that can be laid out: there is one, none is anything else, and the first is not zero. -/
def DecimalDigits.IsProper (digits : List Char) : Prop :=
  digits.all Char.isDigit = true ∧ ∃ first rest, digits = first :: rest ∧ first ≠ '0'

namespace Binary64

/-! ### The decimal point -/

/-- The decimal point of a quotient brackets it between two powers of ten, so that the first digit
after the point is not zero. -/
theorem decimalPoint_spec {num den : Nat} (hnum : 0 < num) (hden : 0 < den) :
    (10 : ℚ) ^ (decimalPoint num den - 1) ≤ num / den ∧
      (num / den : ℚ) < 10 ^ decimalPoint num den := by
  have hnumq : (0 : ℚ) < num := by exact_mod_cast hnum
  have hdenq : (0 : ℚ) < den := by exact_mod_cast hden
  rw [decimalPoint, le_div_iff₀ hdenq, div_lt_iff₀ hdenq]
  -- From one on, the whole part of the quotient has the digits before the point.
  split
  · rename_i hle
    have hpos : 0 < num / den := Nat.div_pos hle hden
    have hlength : 0 < (naturalText (num / den)).length := Nat.length_toDigits_pos
    have hlow : 10 ^ ((naturalText (num / den)).length - 1) * den ≤ num :=
      (Nat.le_div_iff_mul_le hden).mp (pow_length_le hpos)
    have hhigh : num < 10 ^ (naturalText (num / den)).length * den :=
      (Nat.div_lt_iff_lt_mul hden).mp (lt_pow_length (num / den))
    have hpred : ((naturalText (num / den)).length : Int) - 1
        = (((naturalText (num / den)).length - 1 : Nat) : Int) := by omega
    rw [hpred, zpow_natCast, zpow_natCast]
    exact ⟨by exact_mod_cast hlow, by exact_mod_cast hhigh⟩
  · rename_i hlt
    -- Below one, the inverted quotient counts the zeros after the point. One less than the divisor
    -- keeps an exact power of ten on the right side.
    have hle : num ≤ den - 1 := by omega
    have hpos : 0 < (den - 1) / num := Nat.div_pos hle hnum
    have hlength : 0 < (naturalText ((den - 1) / num)).length := Nat.length_toDigits_pos
    have hlow : 10 ^ ((naturalText ((den - 1) / num)).length - 1) * num ≤ den - 1 :=
      (Nat.le_div_iff_mul_le hnum).mp (pow_length_le hpos)
    have hhigh : den - 1 < 10 ^ (naturalText ((den - 1) / num)).length * num :=
      (Nat.div_lt_iff_lt_mul hnum).mp (lt_pow_length ((den - 1) / num))
    have hlow' : 10 ^ ((naturalText ((den - 1) / num)).length - 1) * num < den := by omega
    have hhigh' : den ≤ 10 ^ (naturalText ((den - 1) / num)).length * num := by omega
    generalize (naturalText ((den - 1) / num)).length = length at *
    have hpower : (1 : Int) - length - 1 = -(length : Int) := by omega
    have hpower' : (1 : Int) - length = -((length - 1 : Nat) : Int) := by omega
    rw [hpower, hpower', zpow_neg, zpow_neg, zpow_natCast, zpow_natCast,
      inv_mul_le_iff₀ (by positivity), lt_inv_mul_iff₀ (by positivity)]
    exact ⟨by exact_mod_cast hhigh', by exact_mod_cast hlow'⟩

/-! ### The interval -/

variable {significand : Nat} {exponent : Int} {q : ℚ}

/-- The natural numbers that the search compares are the rationals that it means, times one positive
scale that clears their denominators. -/
theorem exists_scale (exponent power : Int) :
    ∃ scale : ℚ, 0 < scale ∧
      (∀ bound : Nat,
        ((bound * (twoTo (exponent - 2).toNat * tenTo (-power).toNat) : Nat) : ℚ)
          = bound * 2 ^ (exponent - 2) * scale) ∧
      ∀ candidate : Nat,
        ((candidate * tenTo power.toNat * twoTo (2 - exponent).toNat : Nat) : ℚ)
          = candidate * 10 ^ power * scale := by
  have htwo : (0 : ℚ) < twoTo (2 - exponent).toNat := by exact_mod_cast twoTo_pos _
  have hten : (0 : ℚ) < tenTo (-power).toNat := by exact_mod_cast tenTo_pos _
  refine ⟨twoTo (2 - exponent).toNat * tenTo (-power).toNat, by positivity, fun bound => ?_,
    fun candidate => ?_⟩
  · rw [← twoTo_div, neg_sub]
    push_cast
    field_simp
  · rw [← tenTo_div]
    push_cast
    field_simp

/-- The test of a candidate is the rounding interval. From here on candidates are rationals. -/
theorem holds_iff (significand : Nat) (exponent : Int) (candidate : Nat) (power : Int) :
    (roundingInterval significand exponent).holds (twoTo (exponent - 2).toNat)
        (twoTo (2 - exponent).toNat) candidate power = true
      ↔ RoundsTo significand exponent (candidate * 10 ^ power) := by
  obtain ⟨scale, hpos, hbound, hcandidate⟩ := exists_scale exponent power
  simp only [RoundingInterval.holds, RoundsTo]
  split
  · rw [Bool.and_eq_true, decide_eq_true_iff, decide_eq_true_iff, ← Nat.cast_le (α := ℚ),
      ← Nat.cast_le (α := ℚ), hbound, hbound, hcandidate, mul_le_mul_iff_left₀ hpos,
      mul_le_mul_iff_left₀ hpos]
  · rw [Bool.and_eq_true, decide_eq_true_iff, decide_eq_true_iff, ← Nat.cast_lt (α := ℚ),
      ← Nat.cast_lt (α := ℚ), hbound, hbound, hcandidate, mul_lt_mul_iff_left₀ hpos,
      mul_lt_mul_iff_left₀ hpos]

/-- What is near enough to a positive double, measured by the double, rounds to it. The measure is
half a unit in the seventeenth digit. -/
theorem roundsTo_of_near (hcanonical : Canonical significand exponent) (hpos : 0 < significand)
    (hlow : (significand : ℚ) * 2 ^ exponent * (1 - 1 / (2 * 10 ^ 16)) ≤ q)
    (hhigh : q ≤ (significand : ℚ) * 2 ^ exponent * (1 + 1 / (2 * 10 ^ 16))) :
    RoundsTo significand exponent q := by
  have hstep : (0 : ℚ) < 2 ^ exponent := by positivity
  have hsmall : (significand : ℚ) < 2 ^ 53 := by exact_mod_cast hcanonical.1
  -- Half a unit in the seventeenth digit is less than a quarter of a grid step, because the
  -- significand is below `2 ^ 53`.
  have hends : ((roundingInterval significand exponent).low : ℚ) * (2 ^ exponent / 4) < q ∧
      q < ((roundingInterval significand exponent).high : ℚ) * (2 ^ exponent / 4) := by
    have hhighEnd : ((roundingInterval significand exponent).high : ℚ) = 4 * significand + 2 := by
      rw [roundingInterval]
      push_cast
      rfl
    rw [low_roundingInterval hpos, hhighEnd]
    constructor
    · refine lt_of_lt_of_le ?_ hlow
      split
      · rename_i hfiner
        have hleast : (significand : ℚ) = 2 ^ 52 := by exact_mod_cast hfiner.1
        rw [hleast]
        nlinarith
      · nlinarith
    · refine lt_of_le_of_lt hhigh ?_
      nlinarith
  rw [RoundsTo, unit_eq]
  split
  · exact ⟨hends.1.le, hends.2.le⟩
  · exact hends

/-! ### The search -/

/-- What is found with a number of digits passed the test, whichever of the neighbours it is. -/
theorem holds_of_bestOf {i : RoundingInterval} {unitNum unitDen candidate count : Nat} {point : Int}
    (h : i.bestOf unitNum unitDen point count = some candidate) :
    i.holds unitNum unitDen candidate (point - count) = true := by
  rw [RoundingInterval.bestOf] at h
  -- Along the search: when both neighbours pass, the nearer one is taken, and at a tie the even
  -- one.
  split at h
  · rename_i hbelow habove
    split at h
    · cases h
      exact hbelow
    · split at h
      · cases h
        exact habove
      · split at h
        · cases h
          exact hbelow
        · cases h
          exact habove
  · rename_i hbelow habove
    cases h
    exact hbelow
  · rename_i hbelow habove
    cases h
    exact habove
  · cases h

/-- Something is found when one of the neighbours passes the test. The search never gives up on a
passing neighbour. -/
theorem isSome_bestOf {i : RoundingInterval} {unitNum unitDen count below : Nat} {point : Int}
    (hbelow : below = i.middle * unitNum * tenTo (-(point - count)).toNat
      / (unitDen * tenTo (point - count).toNat))
    (h : i.holds unitNum unitDen below (point - count) = true ∨
      i.holds unitNum unitDen (below + 1) (point - count) = true) :
    (i.bestOf unitNum unitDen point count).isSome = true := by
  subst hbelow
  rw [RoundingInterval.bestOf]
  -- Along the search. Only when neither neighbour passes is nothing found.
  split
  · split
    · rfl
    · split
      · rfl
      · split
        · rfl
        · rfl
  · rfl
  · rfl
  · rename_i hbelow habove
    rcases h with hholds | hholds
    · exact absurd hholds (by rw [hbelow]; decide)
    · exact absurd hholds (by rw [habove]; decide)

/-- A search that reaches a number of digits with which something is found ends with a candidate
that passed the test. By induction on the digits that are left to try. -/
theorem holds_search {i : RoundingInterval} {unitNum unitDen : Nat} {point : Int}
    {fuel count enough : Nat} (hfrom : count ≤ enough) (hto : enough < count + fuel)
    (h : (i.bestOf unitNum unitDen point enough).isSome = true) :
    i.holds unitNum unitDen (i.search unitNum unitDen point fuel count).1
      (point - (i.search unitNum unitDen point fuel count).2) = true := by
  induction fuel generalizing count with
  | zero => omega
  | succ fuel ih =>
      rw [RoundingInterval.search]
      cases hfound : i.bestOf unitNum unitDen point count with
      | some candidate => exact holds_of_bestOf hfound
      | none =>
          -- The search cannot go past the number of digits with which something is found.
          have hlater : count ≠ enough := by
            intro heq
            rw [← heq, hfound] at h
            exact absurd h (by decide)
          exact ih (by omega) (by omega)

/-- The quotient that the search divides out is the double measured in a power of ten. -/
theorem scaled_middle (significand : Nat) (exponent power : Int) :
    ((4 * significand * twoTo (exponent - 2).toNat * tenTo (-power).toNat : Nat) : ℚ)
        / ((twoTo (2 - exponent).toNat * tenTo power.toNat : Nat) : ℚ)
      = significand * 2 ^ exponent / 10 ^ power := by
  have hstep : (2 : ℚ) ^ exponent = 4 * 2 ^ (exponent - 2) := by
    rw [unit_eq]
    ring
  rw [hstep, ← twoTo_div, ← tenTo_div, neg_sub]
  push_cast
  rw [div_div_eq_mul_div, mul_div_assoc', mul_div_assoc', div_mul_eq_mul_div, div_div]
  ring_nf

/-- **Seventeen digits suffice.** With so many digits one of the neighbours of a positive double
rounds to it. -/
theorem isSome_bestOf_seventeen (hcanonical : Canonical significand exponent)
    (hpos : 0 < significand) (point : Int)
    (hpoint : (10 : ℚ) ^ (point - 1) ≤ significand * 2 ^ exponent) :
    ((roundingInterval significand exponent).bestOf (twoTo (exponent - 2).toNat)
      (twoTo (2 - exponent).toNat) point 17).isSome = true := by
  have hgrid : (10 : ℚ) ^ (point - 1) = 10 ^ (point - (17 : Nat)) * 10 ^ 16 := by
    rw [← zpow_natCast (10 : ℚ) 16, ← zpow_add₀ (by norm_num)]
    congr 1
    omega
  -- The quotient is the neighbour below, on a grid whose step is a power of ten.
  refine isSome_bestOf rfl ?_
  rw [holds_iff, holds_iff]
  generalize point - ((17 : Nat) : Int) = power at *
  obtain ⟨below, hquotient⟩ : ∃ below, below = 4 * significand * twoTo (exponent - 2).toNat *
      tenTo (-power).toNat / (twoTo (2 - exponent).toNat * tenTo power.toNat) := ⟨_, rfl⟩
  rw [show (roundingInterval significand exponent).middle = 4 * significand from rfl, ← hquotient]
  have hden : 0 < twoTo (2 - exponent).toNat * tenTo power.toNat :=
    Nat.mul_pos (twoTo_pos _) (tenTo_pos _)
  have hdenq : (0 : ℚ) < ((twoTo (2 - exponent).toNat * tenTo power.toNat : Nat) : ℚ) := by
    exact_mod_cast hden
  have hstep : (0 : ℚ) < 10 ^ power := by positivity
  have hbelow : (below : ℚ) * 10 ^ power ≤ significand * 2 ^ exponent := by
    rw [← le_div_iff₀ hstep, ← scaled_middle, le_div_iff₀ hdenq, hquotient]
    exact_mod_cast Nat.div_mul_le_self _ _
  have habove : significand * 2 ^ exponent < ((below + 1 : Nat) : ℚ) * 10 ^ power := by
    rw [← div_lt_iff₀ hstep, ← scaled_middle, div_lt_iff₀ hdenq, hquotient]
    exact_mod_cast (Nat.div_lt_iff_lt_mul hden).mp (Nat.lt_succ_self _)
  push_cast at habove ⊢
  -- The nearer neighbour is at most half a step of the grid away.
  rcases le_total ((significand : ℚ) * 2 ^ exponent - below * 10 ^ power) (10 ^ power / 2)
    with hnear | hnear
  · exact Or.inl (roundsTo_of_near hcanonical hpos (by linarith) (by linarith))
  · exact Or.inr (roundsTo_of_near hcanonical hpos (by linarith) (by linarith))

/-! ### The digits -/

/-- A digit string is what remains of it and zeros, so dropping them can be undone. -/
theorem exists_append_dropTrailingZeros (digits : List Char) :
    ∃ count, digits = dropTrailingZeros digits ++ List.replicate count '0' := by
  have hzeros : ∀ c ∈ digits.reverse.takeWhile (· == '0'), c = '0' := by
    intro c hc
    exact beq_iff_eq.mp (List.all_eq_true.mp List.all_takeWhile c hc)
  refine ⟨(digits.reverse.takeWhile (· == '0')).length, ?_⟩
  rw [dropTrailingZeros, ← List.reverse_replicate, ← List.eq_replicate_of_mem hzeros,
    ← List.reverse_append, List.takeWhile_append_dropWhile, List.reverse_reverse]

/-- Zeros at the end of digits, counted by the place of the point, do not change the value. -/
theorem value_append_zeros (digits : List Char) (count : Nat) (point : Int) :
    DecimalDigits.value ⟨digits ++ List.replicate count '0', point⟩
      = DecimalDigits.value ⟨digits, point⟩ := by
  rw [DecimalDigits.value, DecimalDigits.value, Nat.ofDigitChars_append,
    Nat.ofDigitChars_replicate_zero, List.length_append, List.length_replicate]
  -- Each zero multiplies the digits by ten and divides the power by it.
  have hpower : (10 : ℚ) ^ (point - digits.length)
      = 10 ^ count * 10 ^ (point - ((digits.length + count : Nat) : Int)) := by
    rw [← zpow_natCast, ← zpow_add₀ (by norm_num)]
    congr 1
    push_cast
    ring
  rw [hpower]
  push_cast
  ring

/-- The digits of a positive number without trailing zeros can be laid out: the first digit is not
zero, so it is not dropped. -/
theorem isProper_dropTrailingZeros {n : Nat} (h : 0 < n) :
    DecimalDigits.IsProper (dropTrailingZeros (naturalText n)) := by
  obtain ⟨count, hsplit⟩ := exists_append_dropTrailingZeros (naturalText n)
  have hall : (naturalText n).all Char.isDigit = true := all_isDigit_naturalText n
  constructor
  · rw [hsplit, List.all_append, Bool.and_eq_true] at hall
    exact hall.1
  · cases hkept : dropTrailingZeros (naturalText n) with
    | nil =>
        -- Nothing but zeros would remain, and the text would start with one.
        rw [hkept, List.nil_append] at hsplit
        cases count with
        | zero => exact absurd hsplit (naturalText_ne_nil n)
        | succ k => exact absurd hsplit (naturalText_ne_zero_cons h _)
    | cons first rest =>
        refine ⟨first, rest, rfl, fun hzero => ?_⟩
        rw [hkept, hzero] at hsplit
        exact naturalText_ne_zero_cons h _ hsplit

/-- The digits of a candidate without trailing zeros stand for the candidate on its grid. -/
theorem value_dropTrailingZeros (candidate count : Nat) (point : Int) :
    DecimalDigits.value ⟨dropTrailingZeros (naturalText candidate),
        point + (naturalText candidate).length - count⟩
      = candidate * 10 ^ (point - count) := by
  obtain ⟨zeros, hsplit⟩ := exists_append_dropTrailingZeros (naturalText candidate)
  have hpower : point + (naturalText candidate).length - count - (naturalText candidate).length
      = point - count := by omega
  rw [← value_append_zeros _ zeros, ← hsplit, DecimalDigits.value, ofDigitChars_naturalText]
  simp only [hpower]

/-- **The shortest digits round back.** The digits found for a positive double can be laid out, and
they stand for a number that rounds to the double. -/
theorem roundsTo_shortest (hcanonical : Canonical significand exponent) (hpos : 0 < significand) :
    DecimalDigits.IsProper (shortest significand exponent).digits ∧
      RoundsTo significand exponent (shortest significand exponent).value := by
  have hmiddle : 0 < 4 * significand * twoTo (exponent - 2).toNat :=
    Nat.mul_pos (by omega) (twoTo_pos _)
  have hpoint := (decimalPoint_spec hmiddle (twoTo_pos (2 - exponent).toNat)).1
  -- The point is placed for the double itself, which the middle of the interval stands for.
  have hvalue : ((4 * significand * twoTo (exponent - 2).toNat : Nat) : ℚ)
      / (twoTo (2 - exponent).toNat : Nat) = significand * 2 ^ exponent := by
    have hscaled := scaled_middle significand exponent 0
    simpa [tenTo] using hscaled
  rw [hvalue] at hpoint
  let point := decimalPoint (4 * significand * twoTo (exponent - 2).toNat)
    (twoTo (2 - exponent).toNat)
  let found := (roundingInterval significand exponent).search (twoTo (exponent - 2).toNat)
    (twoTo (2 - exponent).toNat) point 17 1
  have hshape : shortest significand exponent = ⟨dropTrailingZeros (naturalText found.1),
      point + (naturalText found.1).length - found.2⟩ := rfl
  -- The search ends with a candidate, since seventeen digits suffice and it goes so far.
  have hholds : RoundsTo significand exponent (found.1 * 10 ^ (point - found.2)) := by
    rw [← holds_iff]
    exact holds_search (by decide : 1 ≤ 17) (by decide)
      (isSome_bestOf_seventeen hcanonical hpos point hpoint)
  -- What rounds to a positive double is not zero.
  have hfound : 0 < found.1 := by
    have hstep : (0 : ℚ) < 2 ^ exponent := by positivity
    have hreach := (hholds.bounds hpos).1.1
    have hone : (1 : ℚ) ≤ significand := by exact_mod_cast hpos
    refine Nat.pos_of_ne_zero fun hzero => ?_
    rw [hzero, Nat.cast_zero, zero_mul, zero_div] at hreach
    linarith
  rw [hshape, value_dropTrailingZeros]
  exact ⟨isProper_dropTrailingZeros hfound, hholds⟩

end Binary64

end FacetSearch
