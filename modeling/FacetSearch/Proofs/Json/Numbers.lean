import FacetSearch.Json.Read
import FacetSearch.Proofs.Grammar.Token

/-!
# `FacetSearch.Proofs.Json.Numbers`: written numbers are read back

A number is written as a sign and parts: digits, a fraction and an exponent (`DecimalParts`). The
reader of JSON takes the parts one after the other. It takes the fraction and the exponent that the
reader of queries takes where that one takes any (`readFraction_of_fraction?` and
`readExponent_of_exponent?`), and so `readNumber?_text` gives what the number stands for and what
follows it. A whole number is a sign and digits, which the reader takes up to a number of digits
(`readNumber?_ofNat`); a finite double has a fraction or an exponent and is always read
(`readNumber?_magnitudeParts`).
-/

set_option autoImplicit false

namespace FacetSearch

open Grammar

namespace Json

/-- The digits before the point are read. The reader stops behind a zero in front, which is right as
a proper number has no more digits then. -/
theorem readWhole?_append {p : DecimalParts} (h : p.IsProper) {rest : List CodePoint}
    (hrest : Stops isDigit rest) :
    readWhole? (p.whole.map .char ++ rest) = some (p.whole, rest) := by
  -- A zero alone, or digits that do not start with a zero.
  rcases h.leading with hzero | ⟨first, others, hwhole, hfirst⟩
  · rw [hzero]
    rfl
  · have hread := readDigits_append h.whole hrest
    rw [hwhole, List.map_cons, List.cons_append] at hread ⊢
    rw [readWhole?, hread]
    · rfl
    · exact fun _ heq => hfirst (CodePoint.char.inj (List.cons.inj heq).1)

/-- The reader of JSON takes the fraction that the reader of queries takes. The two differ only where
a point has no digits behind it, which one of them refuses. -/
theorem readFraction_of_fraction? {text : List CodePoint} {found : List Char × List CodePoint}
    (h : fraction? text = some found) : readFraction text = found := by
  unfold fraction? at h
  split at h
  · rename_i rest
    rw [readFraction]
    cases hread : readDigits rest with
    | mk digits after =>
        simp only [hread] at h ⊢
        cases digits with
        | nil => cases h
        | cons first others => exact Option.some.inj h
  · rename_i hpoint
    rw [readFraction]
    · exact Option.some.inj h
    · exact hpoint

/-- The reader of JSON takes the exponent that the reader of queries takes. The two differ only where
a mark has no digits behind it, which one of them refuses. -/
theorem readExponent_of_exponent? {text : List CodePoint} {found : Option Int × List CodePoint}
    (h : exponent? text = some found) : readExponent text = found := by
  cases text with
  | nil => exact Option.some.inj h
  | cons mark rest =>
      rw [exponent?] at h
      rw [readExponent]
      split at h
      · rename_i hmark
        rw [if_pos hmark]
        cases hsign : readSign rest with
        | mk negative text =>
            simp only [hsign] at h ⊢
            cases hnatural : naturalOf? (readDigits text).1 with
            | none =>
                rw [hnatural] at h
                cases h
            | some magnitude =>
                rw [hnatural] at h
                exact Option.some.inj h
      · rename_i hmark
        rw [if_neg hmark]
        exact Option.some.inj h

/-- The parts of a number are read up to what cannot continue it. A number without fraction and
exponent is a whole one, and must not have too many digits. -/
theorem readNumber?_text (negative : Bool) {p : DecimalParts} (h : p.IsProper)
    {rest : List CodePoint} (hrest : Stops continuesToken rest) :
    readNumber? negative (p.text.map .char ++ rest)
      = if p.isWhole then
          if digitLimit < p.whole.length then none
          else some (.int (signed negative p.coefficient), rest)
        else some (.float (Binary64.ofDecimal negative p.coefficient p.power), rest) := by
  have hdigit := stops_isDigit (stops_isNameChar hrest)
  have hpower := stops_powerText p hdigit
  rw [readNumber?, DecimalParts.text, List.map_append, List.map_append, List.append_assoc,
    List.append_assoc, readWhole?_append h (stops_fractionText p hpower)]
  simp only [Option.bind_eq_bind, Option.bind_some,
    readFraction_of_fraction? (fraction?_append h hpower (stops_point p hrest)),
    readExponent_of_exponent? (exponent?_append p (stops_isNameChar hrest))]
  have hparts : (p.fraction.isEmpty && p.exponent.isNone) = p.isWhole := rfl
  rw [hparts]
  -- Whether the number is whole decides if its digits are counted.
  by_cases hwhole : p.isWhole = true
  · have hfraction : p.fraction = [] :=
      List.isEmpty_iff.mp (Bool.and_eq_true_iff.mp hwhole).1
    rw [if_pos hwhole, if_pos hwhole, DecimalParts.coefficient, hfraction, List.append_nil]
    rfl
  · rw [if_neg hwhole, if_neg hwhole]
    rfl

/-- A whole number is read, if it does not have too many digits. The reader has a limit where the
writer has none. -/
theorem readNumber?_ofNat {n : Int} (hlimit : (naturalText n.natAbs).length ≤ digitLimit)
    {rest : List CodePoint} (hrest : Stops continuesToken rest) :
    readNumber? (decide (n < 0)) ((DecimalParts.ofNat n.natAbs).text.map .char ++ rest)
      = some (.int n, rest) := by
  rw [readNumber?_text _ (DecimalParts.isProper_ofNat _) hrest, DecimalParts.coefficient_ofNat,
    signed_natAbs, if_pos (show (DecimalParts.ofNat n.natAbs).isWhole = true from rfl)]
  exact if_neg (Nat.not_lt.mpr hlimit)

/-- A finite double is read, since its text always has a fraction or an exponent and is that of the
nearest double. -/
theorem readNumber?_magnitudeParts (negative : Bool) {significand : Nat} {exponent : Int}
    (hcanonical : Binary64.Canonical significand exponent) {rest : List CodePoint}
    (hrest : Stops continuesToken rest) :
    readNumber? negative ((Binary64.magnitudeParts significand exponent).text.map .char ++ rest)
      = some (.float (.finite negative significand exponent hcanonical), rest) := by
  rw [readNumber?_text negative (Binary64.isProper_magnitudeParts hcanonical) hrest,
    Binary64.isWhole_magnitudeParts hcanonical,
    Binary64.ofDecimal_magnitudeParts negative hcanonical]
  rfl

end Json

end FacetSearch
