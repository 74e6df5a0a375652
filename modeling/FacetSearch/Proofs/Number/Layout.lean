import FacetSearch.Proofs.Number.Shortest
import FacetSearch.Proofs.Text.Scan

/-!
# `FacetSearch.Proofs.Number.Layout`: the text of a double stands for the double

The text of a finite double is a sign and a decimal number in parts: digits before the point, digits
after it, and an exponent, of which the last two can be missing. `text_layoutParts` takes the five
layouts to this form and `value_layoutParts` keeps the value.

A whole number is a sign and digits, which are parts too (`integerText_eq`), so that one account of
reading parts serves both kinds of number.

The readers of JSON and of GraphQL each scan such parts in their own way and then ask for the double
nearest to the number. What they share is stated here. The cut-offs of `ofDecimal` are out of reach
of every double (`ofDecimal_of_roundsTo`), so the parts of a double stand for a number that is taken
to the double itself: `ofDecimal_magnitudeParts`.
-/

set_option autoImplicit false

namespace FacetSearch

/-- A decimal number in parts. -/
structure DecimalParts where
  whole : List Char
  fraction : List Char
  exponent : Option Int

namespace DecimalParts

/-- The point and the digits after it, if there are any. -/
def fractionText (p : DecimalParts) : List Char :=
  if p.fraction.isEmpty then [] else '.' :: p.fraction

/-- The exponent with its mark, if there is one. -/
def powerText (p : DecimalParts) : List Char :=
  match p.exponent with
  | none => []
  | some n => Binary64.exponentText n

/-- The text of the parts. -/
def text (p : DecimalParts) : List Char := p.whole ++ (p.fractionText ++ p.powerText)

/-- The whole number that the digits make. -/
def coefficient (p : DecimalParts) : Nat := Nat.ofDigitChars 10 (p.whole ++ p.fraction) 0

/-- The power of ten that the coefficient stands in. -/
def power (p : DecimalParts) : Int := p.exponent.getD 0 - p.fraction.length

/-- Whether there is neither a fraction nor an exponent. -/
def isWhole (p : DecimalParts) : Bool := p.fraction.isEmpty && p.exponent.isNone

/-- Parts as they are written: all digits, at least one before the point, and no zero before
others. -/
structure IsProper (p : DecimalParts) : Prop where
  whole : p.whole.all Char.isDigit = true
  leading : p.whole = ['0'] ∨ ∃ first rest, p.whole = first :: rest ∧ first ≠ '0'
  fraction : p.fraction.all Char.isDigit = true

/-- There is a digit before the point, so a reader that looks for one finds it. -/
theorem IsProper.whole_ne_nil {p : DecimalParts} (h : p.IsProper) : p.whole ≠ [] := by
  rcases h.leading with hzero | ⟨first, rest, hwhole, -⟩
  · rw [hzero]
    exact List.cons_ne_nil _ _
  · rw [hwhole]
    exact List.cons_ne_nil _ _

end DecimalParts

/-! ### Signs and whole numbers -/

namespace DecimalParts

/-- The parts of a whole number. -/
def ofNat (n : Nat) : DecimalParts := ⟨naturalText n, [], none⟩

/-- A number with its sign. -/
def signedText (negative : Bool) (p : DecimalParts) : List Char :=
  (if negative then ['-'] else []) ++ p.text

/-- The parts of a whole number are written as numbers are: only the number zero starts with a
zero. -/
theorem isProper_ofNat (n : Nat) : (ofNat n).IsProper where
  whole := all_isDigit_naturalText n
  leading := by
    rcases Nat.eq_zero_or_pos n with rfl | hpos
    · exact Or.inl rfl
    · right
      cases htext : naturalText n with
      | nil => exact absurd htext (naturalText_ne_nil n)
      | cons first others =>
          refine ⟨first, others, htext, ?_⟩
          rintro rfl
          exact naturalText_ne_zero_cons hpos _ htext
  fraction := rfl

/-- The digits of a whole number make the number. -/
theorem coefficient_ofNat (n : Nat) : (ofNat n).coefficient = n := by
  rw [coefficient, ofNat, List.append_nil, ofDigitChars_naturalText]

/-- A number starts with a digit. -/
theorem exists_cons_text {p : DecimalParts} (h : p.IsProper) :
    ∃ c tail, p.text = c :: tail ∧ c.isDigit = true := by
  cases hwhole : p.whole with
  | nil => exact absurd hwhole h.whole_ne_nil
  | cons c others =>
      have hdigits := h.whole
      rw [hwhole, List.all_cons, Bool.and_eq_true] at hdigits
      refine ⟨c, others ++ (p.fractionText ++ p.powerText), ?_, hdigits.1⟩
      rw [text, hwhole, List.cons_append]

/-- A number with its sign starts with the sign or with a digit. -/
theorem exists_cons_signedText (negative : Bool) {p : DecimalParts} (h : p.IsProper) :
    ∃ c tail, p.signedText negative = c :: tail ∧ (c = '-' ∨ c.isDigit = true) := by
  cases negative with
  | true => exact ⟨'-', p.text, rfl, Or.inl rfl⟩
  | false =>
      obtain ⟨c, tail, htext, hdigit⟩ := exists_cons_text h
      exact ⟨c, tail, htext, Or.inr hdigit⟩

end DecimalParts

/-- The text of a whole number is its sign and its digits, so that a whole number is read like any
other. -/
theorem integerText_eq (n : Int) :
    integerText n = (DecimalParts.ofNat n.natAbs).signedText (decide (n < 0)) := by
  have htext : (DecimalParts.ofNat n.natAbs).text = naturalText n.natAbs := List.append_nil _
  rw [integerText, DecimalParts.signedText, htext]
  -- The writer goes by the sign of the number.
  by_cases hneg : n < 0
  · rw [if_pos hneg, if_pos (decide_eq_true hneg)]
    rfl
  · rw [if_neg hneg, if_neg (by simpa using hneg)]
    rfl

/-! ### The five layouts -/

/-- The parts in which digits are laid out. The cases are those of the writer: a point before, after
or among the digits, or an exponent. -/
def DecimalDigits.layoutParts (d : DecimalDigits) : DecimalParts :=
  if -4 < d.point ∧ d.point ≤ 16 then
    if d.point ≤ 0 then ⟨['0'], List.replicate (-d.point).toNat '0' ++ d.digits, none⟩
    else if d.digits.length ≤ d.point.toNat then
      ⟨d.digits ++ List.replicate (d.point.toNat - d.digits.length) '0', ['0'], none⟩
    else ⟨d.digits.take d.point.toNat, d.digits.drop d.point.toNat, none⟩
  else ⟨d.digits.take 1, d.digits.drop 1, some (d.point - 1)⟩

namespace DecimalDigits

variable {d : DecimalDigits}

/-- The layout of digits is the text of its parts. The writer joins strings; the parts are what a
reader takes from them. -/
theorem text_layoutParts (h : IsProper d.digits) :
    Binary64.layout d = d.layoutParts.text := by
  obtain ⟨-, first, rest, hdigits, -⟩ := h
  rw [Binary64.layout, layoutParts]
  -- The five layouts, in the order in which the writer tries them.
  split
  · split
    · rw [DecimalParts.text, DecimalParts.fractionText, DecimalParts.powerText, hdigits]
      simp
    · split
      · rw [DecimalParts.text, DecimalParts.fractionText, DecimalParts.powerText]
        simp
      · rename_i hlong
        have hrest : (d.digits.drop d.point.toNat).isEmpty = false := by
          rw [List.isEmpty_eq_false_iff, ← List.length_pos_iff, List.length_drop]
          omega
        rw [DecimalParts.text, DecimalParts.fractionText, DecimalParts.powerText, hrest]
        simp
  · rw [hdigits, DecimalParts.text, DecimalParts.fractionText, DecimalParts.powerText]
    cases rest with
    | nil => rfl
    | cons second others => simp

/-- The parts of a layout are written as numbers are: all digits, and a zero in front only where it
stands alone before the point. -/
theorem isProper_layoutParts (h : IsProper d.digits) : d.layoutParts.IsProper := by
  obtain ⟨hall, first, rest, hdigits, hfirst⟩ := h
  have hzeros : ∀ n, (List.replicate n '0').all Char.isDigit = true := by
    intro n
    rw [List.all_eq_true]
    intro c hc
    rw [List.eq_of_mem_replicate hc]
    rfl
  -- Every part is a piece of the digits or of zeros; what differs is where the point stands.
  have hpart : ∀ part : List Char, (∀ c ∈ part, c ∈ d.digits) → part.all Char.isDigit = true := by
    intro part hmem
    rw [List.all_eq_true] at hall ⊢
    exact fun c hc => hall c (hmem c hc)
  rw [layoutParts]
  split
  · split
    · exact
        { whole := rfl
          leading := Or.inl rfl
          fraction := by
            show (List.replicate _ '0' ++ d.digits).all Char.isDigit = true
            rw [List.all_append, hzeros, hall]
            rfl }
    · rename_i hpositive
      split
      · exact
          { whole := by
              show (d.digits ++ List.replicate _ '0').all Char.isDigit = true
              rw [List.all_append, hzeros, hall]
              rfl
            leading := Or.inr ⟨first, _, by rw [hdigits]; rfl, hfirst⟩
            fraction := rfl }
      · rename_i hlong
        exact
          { whole := hpart _ fun c hc => List.mem_of_mem_take hc
            leading := by
              cases hpoint : d.point.toNat with
              | zero => omega
              | succ k =>
                  right
                  rw [hdigits]
                  exact ⟨first, rest.take k, rfl, hfirst⟩
            fraction := hpart _ fun c hc => List.mem_of_mem_drop hc }
  · exact
      { whole := hpart _ fun c hc => List.mem_of_mem_take hc
        leading := by
          right
          rw [hdigits]
          exact ⟨first, [], rfl, hfirst⟩
        fraction := hpart _ fun c hc => List.mem_of_mem_drop hc }

/-- A layout has a fraction or an exponent, so a double is never read as a whole number. -/
theorem isWhole_layoutParts (h : IsProper d.digits) : d.layoutParts.isWhole = false := by
  obtain ⟨-, first, rest, hdigits, -⟩ := h
  rw [layoutParts]
  -- Along the layouts: three of them have digits behind the point, and the last has an exponent.
  split
  · split
    · rw [DecimalParts.isWhole, hdigits]
      simp
    · split
      · rfl
      · rename_i hlong
        have hrest : (d.digits.drop d.point.toNat).isEmpty = false := by
          rw [List.isEmpty_eq_false_iff, ← List.length_pos_iff, List.length_drop]
          omega
        rw [DecimalParts.isWhole, hrest]
        rfl
  · rw [DecimalParts.isWhole]
    exact Bool.and_false _

/-- Zeros before digits shift the point. -/
theorem value_zeros_append (count : Nat) (digits : List Char) (point : Int) :
    value ⟨List.replicate count '0' ++ digits, point⟩ = value ⟨digits, point - count⟩ := by
  have hpower : point - ((count + digits.length : Nat) : Int) = point - count - digits.length := by
    omega
  rw [value, value, Nat.ofDigitChars_append, Nat.ofDigitChars_replicate_zero, Nat.mul_zero,
    List.length_append, List.length_replicate, hpower]

/-- Parts stand for their digits with the point after the whole ones, moved by the exponent. All
layouts are compared in this form. -/
theorem value_parts (p : DecimalParts) :
    (p.coefficient : ℚ) * 10 ^ p.power
      = value ⟨p.whole ++ p.fraction, p.exponent.getD 0 + p.whole.length⟩ := by
  rw [value, DecimalParts.coefficient, DecimalParts.power, List.length_append]
  congr 2
  push_cast
  ring

/-- The parts of a layout stand for the number that the digits stand for. What the layouts add are
zeros at the ends, and these move the point or change nothing. -/
theorem value_layoutParts (h : IsProper d.digits) :
    (d.layoutParts.coefficient : ℚ) * 10 ^ d.layoutParts.power = d.value := by
  obtain ⟨-, first, rest, hdigits, -⟩ := h
  have hlength : 0 < d.digits.length := by
    rw [hdigits]
    exact Nat.succ_pos _
  rw [value_parts, layoutParts]
  split
  · split
    · rename_i hpoint
      -- The zero before the point is one more zero in front of the digits.
      have hzeros : ['0'] ++ (List.replicate (-d.point).toNat '0' ++ d.digits)
          = List.replicate ((-d.point).toNat + 1) '0' ++ d.digits := rfl
      have hplace : (0 : Int) + 1 - ((-d.point).toNat + 1 : Nat) = d.point := by omega
      show value ⟨['0'] ++ (List.replicate _ '0' ++ d.digits), 0 + 1⟩ = _
      rw [hzeros, value_zeros_append, hplace]
    · split
      · rename_i hshort
        -- The zeros after the digits fill up to the point and one more behind it.
        have hzeros : d.digits ++ List.replicate (d.point.toNat - d.digits.length) '0' ++ ['0']
            = d.digits ++ List.replicate (d.point.toNat - d.digits.length + 1) '0' := by
          rw [List.replicate_succ', List.append_assoc]
        have hplace : (0 : Int) + (d.digits ++
            List.replicate (d.point.toNat - d.digits.length) '0').length = d.point := by
          rw [List.length_append, List.length_replicate]
          omega
        show value ⟨d.digits ++ List.replicate _ '0' ++ ['0'], 0 + _⟩ = _
        rw [hzeros, Binary64.value_append_zeros, hplace]
      · rename_i hlong
        have hplace : (0 : Int) + (d.digits.take d.point.toNat).length = d.point := by
          rw [List.length_take]
          omega
        show value ⟨d.digits.take _ ++ d.digits.drop _, 0 + _⟩ = _
        rw [List.take_append_drop, hplace]
  · have hplace : d.point - 1 + (d.digits.take 1).length = d.point := by
      rw [List.length_take]
      omega
    show value ⟨d.digits.take 1 ++ d.digits.drop 1, d.point - 1 + _⟩ = _
    rw [List.take_append_drop, hplace]

end DecimalDigits

/-! ### What ends the digits -/

/-- What follows the digits of a fraction is an exponent or nothing. -/
theorem DecimalParts.stops_powerText (p : DecimalParts) : Stops Char.isDigit p.powerText := by
  rw [DecimalParts.powerText]
  split
  · exact Stops.nil
  · exact Stops.cons rfl _

/-- What follows the digits before the point is the point or no fraction. -/
theorem DecimalParts.stops_fractionText (p : DecimalParts) : Stops Char.isDigit p.fractionText := by
  rw [DecimalParts.fractionText]
  split
  · exact Stops.nil
  · exact Stops.cons rfl _

namespace Binary64

/-- The text of an exponent is its mark, a sign and digits. An exponent of one digit gets a zero in
front, which adds nothing. -/
theorem exponentText_eq (n : Int) :
    ∃ digits, digits ≠ [] ∧ digits.all Char.isDigit = true ∧
      Nat.ofDigitChars 10 digits 0 = n.natAbs ∧
      exponentText n = 'e' :: (if n < 0 then '-' else '+') :: digits := by
  refine ⟨if (naturalText n.natAbs).length < 2 then '0' :: naturalText n.natAbs
    else naturalText n.natAbs, ?_, ?_, ?_, rfl⟩
  -- The digits are those of the magnitude, with a zero in front of a single one. Each property
  -- holds with the zero and without.
  · split
    · exact List.cons_ne_nil _ _
    · exact naturalText_ne_nil _
  · split
    · exact all_isDigit_naturalText n.natAbs
    · exact all_isDigit_naturalText n.natAbs
  · split
    · exact ofDigitChars_naturalText n.natAbs
    · exact ofDigitChars_naturalText n.natAbs

/-! ### The double of the parts -/

variable {significand : Nat} {exponent : Int}

/-- A power of ten is above the power of two with three times its exponent. The exponents are past
those of every double. -/
theorem two_zpow_lt_ten_zpow : (2 : ℚ) ^ (1200 : Int) < 10 ^ (400 : Int) := by
  have hcube : (2 : ℚ) ^ (1200 : Int) = (2 ^ 3) ^ (400 : Int) := by
    rw [← zpow_natCast, ← zpow_mul]
    rfl
  rw [hcube]
  exact zpow_lt_zpow_left₀ (by norm_num) (by norm_num) (by norm_num)

/-- The number of digits and the power say between which powers of ten a decimal number lies. -/
theorem length_bounds {coefficient : Nat} (hpos : 0 < coefficient) (power : Int) :
    (10 : ℚ) ^ (((naturalText coefficient).length : Int) + power - 1) ≤ coefficient * 10 ^ power ∧
      (coefficient * 10 ^ power : ℚ) < 10 ^ (((naturalText coefficient).length : Int) + power) := by
  have hgrid : (0 : ℚ) < 10 ^ power := by positivity
  have hlength : 0 < (naturalText coefficient).length := Nat.length_toDigits_pos
  have hsplit : ((naturalText coefficient).length : Int) + power - 1
      = (((naturalText coefficient).length - 1 : Nat) : Int) + power := by omega
  have hle : (10 : ℚ) ^ ((naturalText coefficient).length - 1) ≤ coefficient := by
    exact_mod_cast pow_length_le hpos
  have hlt : (coefficient : ℚ) < 10 ^ (naturalText coefficient).length := by
    exact_mod_cast lt_pow_length coefficient
  -- The digits count the power of ten below the number, and the one above it.
  constructor
  · rw [hsplit, zpow_add₀ (by norm_num), zpow_natCast]
    gcongr
  · rw [zpow_add₀ (by norm_num), zpow_natCast]
    gcongr

/-- What rounds to a positive double lies between the powers of two around all doubles. The bounds
are generous, as long as the cut-offs lie past them. -/
theorem RoundsTo.between {q : ℚ} (hcanonical : Canonical significand exponent)
    (hpos : 0 < significand) (h : RoundsTo significand exponent q) :
    (2 : ℚ) ^ (-1200 : Int) ≤ q ∧ q ≤ 2 ^ (1200 : Int) := by
  obtain ⟨hbound, hleast, hmost, -⟩ := id hcanonical
  have hstep : (0 : ℚ) < 2 ^ exponent := by positivity
  have hone : (1 : ℚ) ≤ significand := by exact_mod_cast hpos
  have hbig : (significand : ℚ) + 1 ≤ 2 ^ 53 := by exact_mod_cast hbound
  obtain ⟨hlow, hhigh⟩ := (h.bounds hpos).1
  rw [le_div_iff₀ hstep] at hlow
  rw [div_le_iff₀ hstep] at hhigh
  -- The significand is one at least, so the lower bound is half a step of the grid or more.
  have hfinest : (2 : ℚ) ^ (exponent - 1) ≤ (significand - 1 / 2) * 2 ^ exponent := by
    rw [zpow_sub₀ (by norm_num), zpow_one]
    nlinarith
  -- It has 53 bits, so the upper bound is the next power of two at most.
  have hlargest : (significand + 1 / 2 : ℚ) * 2 ^ exponent ≤ 2 ^ ((53 : Int) + exponent) := by
    rw [zpow_add₀ (by norm_num)]
    gcongr
    exact le_trans (by linarith) hbig
  -- The exponents of doubles keep both bounds well inside.
  have hleastPower : (2 : ℚ) ^ (-1200 : Int) ≤ 2 ^ (exponent - 1) :=
    zpow_le_zpow_right₀ (by norm_num) (by omega)
  have hmostPower : (2 : ℚ) ^ ((53 : Int) + exponent) ≤ 2 ^ (1200 : Int) :=
    zpow_le_zpow_right₀ (by norm_num) (by omega)
  exact ⟨hleastPower.trans (hfinest.trans hlow), hhigh.trans (hlargest.trans hmostPower)⟩

/-- A decimal number that rounds to a positive double is taken to it: the cut-offs for numbers past
every double are out of reach, so the quotient is rounded. -/
theorem ofDecimal_of_roundsTo (negative : Bool) {coefficient : Nat} {power : Int}
    (hcanonical : Canonical significand exponent) (hpos : 0 < significand)
    (h : RoundsTo significand exponent (coefficient * 10 ^ power)) :
    ofDecimal negative coefficient power = .finite negative significand exponent hcanonical := by
  obtain ⟨hleast, hmost⟩ := h.between hcanonical hpos
  have hcoefficient : 0 < coefficient := by
    refine Nat.pos_of_ne_zero fun hzero => ?_
    rw [hzero, Nat.cast_zero, zero_mul] at hleast
    exact absurd hleast (not_le.mpr (by positivity))
  obtain ⟨hreach, hbelow⟩ := length_bounds hcoefficient power
  have hupper : ¬ 400 < ((naturalText coefficient).length : Int) + power := by
    intro hlarge
    have hpast : (10 : ℚ) ^ (400 : Int)
        ≤ 10 ^ (((naturalText coefficient).length : Int) + power - 1) :=
      zpow_le_zpow_right₀ (by norm_num) (by omega)
    have hchain : (10 : ℚ) ^ (400 : Int) ≤ 2 ^ (1200 : Int) := hpast.trans (hreach.trans hmost)
    exact absurd hchain (not_le.mpr two_zpow_lt_ten_zpow)
  have hlower : ¬ ((naturalText coefficient).length : Int) + power < -400 := by
    intro hsmall
    have hpast : (10 : ℚ) ^ (((naturalText coefficient).length : Int) + power)
        ≤ 10 ^ (-400 : Int) := zpow_le_zpow_right₀ (by norm_num) (by omega)
    have hinverse : (10 : ℚ) ^ (-400 : Int) < 2 ^ (-1200 : Int) := by
      rw [zpow_neg, zpow_neg]
      exact inv_strictAnti₀ (by positivity) two_zpow_lt_ten_zpow
    have hchain : (2 : ℚ) ^ (-1200 : Int) < 10 ^ (-400 : Int) :=
      lt_of_le_of_lt hleast (lt_of_lt_of_le hbelow hpast)
    exact lt_asymm hinverse hchain
  -- Past the cut-offs the number is the quotient that rounding is about.
  have hquotient : (coefficient * 10 ^ power : ℚ)
      = ((coefficient * tenTo power.toNat : Nat) : ℚ) / ((tenTo (-power).toNat : Nat) : ℚ) := by
    rw [← tenTo_div, Nat.cast_mul, mul_div_assoc]
  rw [hquotient] at h
  rw [ofDecimal, if_neg (Nat.pos_iff_ne_zero.mp hcoefficient)]
  simp only [if_neg hupper, if_neg hlower]
  exact ofRatio_of_roundsTo negative hcanonical hpos (tenTo_pos _) h

/-! ### The text of a double -/

/-- The parts of the text of a finite double without its sign. Zero has no shortest digits and is
laid out by hand. -/
def magnitudeParts (significand : Nat) (exponent : Int) : DecimalParts :=
  if significand = 0 then ⟨['0'], ['0'], none⟩ else (shortest significand exponent).layoutParts

/-- The text of a finite double is its sign and its parts, so that readers can take the two one
after the other. -/
theorem text_finite (negative : Bool) (hcanonical : Canonical significand exponent) :
    (Binary64.finite negative significand exponent hcanonical).text
      = (if negative then ['-'] else []) ++ (magnitudeParts significand exponent).text := by
  -- Zero is laid out on its own, since no digit of it is the first one.
  have hmagnitude : (if significand = 0 then ['0', '.', '0']
        else layout (shortest significand exponent))
      = (magnitudeParts significand exponent).text := by
    rw [magnitudeParts]
    split
    · rfl
    · rename_i hpos
      exact DecimalDigits.text_layoutParts
        (roundsTo_shortest hcanonical (Nat.pos_of_ne_zero hpos)).1
  rw [text, hmagnitude]
  cases negative with
  | true => rfl
  | false => rfl

/-- The parts of the text of a finite double are written as numbers are. -/
theorem isProper_magnitudeParts (hcanonical : Canonical significand exponent) :
    (magnitudeParts significand exponent).IsProper := by
  rw [magnitudeParts]
  split
  · exact ⟨rfl, Or.inl rfl, rfl⟩
  · rename_i hpos
    exact DecimalDigits.isProper_layoutParts
      (roundsTo_shortest hcanonical (Nat.pos_of_ne_zero hpos)).1

/-- The text of a finite double has a fraction or an exponent. -/
theorem isWhole_magnitudeParts (hcanonical : Canonical significand exponent) :
    (magnitudeParts significand exponent).isWhole = false := by
  rw [magnitudeParts]
  split
  · rfl
  · rename_i hpos
    exact DecimalDigits.isWhole_layoutParts
      (roundsTo_shortest hcanonical (Nat.pos_of_ne_zero hpos)).1

/-- The parts of the text of a finite double stand for a number that is taken to the double. This is
what makes the texts of doubles readable without loss. -/
theorem ofDecimal_magnitudeParts (negative : Bool)
    (hcanonical : Canonical significand exponent) :
    ofDecimal negative (magnitudeParts significand exponent).coefficient
        (magnitudeParts significand exponent).power
      = .finite negative significand exponent hcanonical := by
  rw [magnitudeParts]
  by_cases hzero : significand = 0
  · -- Only on the finest grid is there a zero.
    have hexponent : exponent = -1074 := by
      refine hcanonical.2.2.2.resolve_right fun hnormal => ?_
      have hpos := twoTo_pos 52
      omega
    subst hzero
    subst hexponent
    rw [if_pos rfl]
    show ofScaled negative 0 (-1074) = _
    rw [ofScaled, dif_pos hcanonical]
  · have hpos : 0 < significand := Nat.pos_of_ne_zero hzero
    obtain ⟨hproper, hrounds⟩ := roundsTo_shortest hcanonical hpos
    rw [if_neg hzero]
    rw [← DecimalDigits.value_layoutParts hproper] at hrounds
    exact ofDecimal_of_roundsTo negative hcanonical hpos hrounds

/-- The double nearest to a tenth is written with one digit. -/
example : (ofRatio false 1 10).text = "0.1".toList := by decide

end Binary64

end FacetSearch
