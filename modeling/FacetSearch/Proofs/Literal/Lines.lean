import FacetSearch.Proofs.Literal.Meaning

/-!
# `FacetSearch.Proofs.Literal.Lines`: a written literal is one line

No text of a readable literal holds a line end. Strings escape it, numbers and flags have none, and
the names of fields are names. So a query has the lines that it was joined from.
-/

set_option autoImplicit false

namespace FacetSearch

open Grammar

/-- Whether a text stays on its line. Other characters that end lines elsewhere do not matter:
queries are taken apart at line ends alone. -/
def isOneLine (text : List CodePoint) : Bool := text.all (· != .char '\n')

/-- A text on one line holds no line end. -/
theorem not_mem_of_isOneLine {text : List CodePoint} (h : isOneLine text = true) :
    .char '\n' ∉ text := by
  intro hmem
  exact absurd (List.all_eq_true.mp h _ hmem) (by decide)

/-- Texts on one line make a text on one line. -/
@[simp]
theorem isOneLine_append (a b : List CodePoint) :
    isOneLine (a ++ b) = (isOneLine a && isOneLine b) := List.all_append

/-- A text stays on its line when its first character and the others do. -/
@[simp]
theorem isOneLine_cons (c : CodePoint) (rest : List CodePoint) :
    isOneLine (c :: rest) = (c != .char '\n' && isOneLine rest) := rfl

/-- Characters stay on their line when none of them is a line end. -/
theorem isOneLine_map_char {text : List Char} (h : '\n' ∉ text) :
    isOneLine (text.map .char) = true := by
  refine List.all_eq_true.mpr fun point hpoint => bne_iff_ne.mpr ?_
  rintro rfl
  obtain ⟨c, hc, hline⟩ := List.mem_map.mp hpoint
  exact h (CodePoint.char.inj hline ▸ hc)

/-- Digits stay on their line. -/
theorem isOneLine_of_isDigit {digits : List Char} (h : digits.all Char.isDigit = true) :
    isOneLine (digits.map .char) = true :=
  isOneLine_map_char fun hmem => absurd (List.all_eq_true.mp h _ hmem) (by decide)

/-- A name stays on its line: a line end is no character of names. -/
theorem isOneLine_of_isName {name : Text} (h : isName name = true) :
    isOneLine name.toList = true := by
  refine List.all_eq_true.mpr fun c hc => ?_
  have hchar := List.all_eq_true.mp (all_of_isName h) c hc
  rw [bne_iff_ne]
  rintro rfl
  exact absurd hchar (by decide)

/-- The escape of a control character stays on its line. -/
theorem isOneLine_unitEscape {n : Nat} (h : n < 32) :
    isOneLine ((unitEscape n).map .char) = true := by
  revert n
  decide

/-- A written character stays on its line. A line end has a short escape, so it is written as a
backslash and a letter. -/
theorem isOneLine_jsonEscape (c : Char) : isOneLine ((jsonEscape c).map .char) = true := by
  -- A short escape, the escape of a unit, or the character itself, which is past the line end.
  rcases jsonEscape_cases c with ⟨letter, hletter, htext⟩ | ⟨hcontrol, htext⟩ |
    ⟨-, -, hcontrol, htext⟩
  · have hne : letter ≠ '\n' := by
      rintro rfl
      cases hletter
    rw [htext]
    exact isOneLine_map_char (by simp [hne.symm])
  · rw [htext]
    exact isOneLine_unitEscape hcontrol
  · have hne : c ≠ '\n' := by
      rintro rfl
      exact hcontrol (by decide)
    rw [htext]
    exact isOneLine_map_char (by simp [hne.symm])

/-- A quoted string stays on its line, whatever its content is: a line end inside is escaped. -/
theorem isOneLine_jsonQuoted (content : List CodePoint) :
    isOneLine (jsonQuoted content) = true := by
  have hpoint : ∀ point, isOneLine (jsonPoint point) = true
    | .char c => isOneLine_jsonEscape c
    | .surrogate _ => rfl
  have hbody : isOneLine (content.flatMap jsonPoint) = true := by
    refine List.all_eq_true.mpr fun c hc => ?_
    obtain ⟨d, -, hd⟩ := List.mem_flatMap.mp hc
    exact List.all_eq_true.mp (hpoint d) c hd
  rw [jsonQuoted, isOneLine_cons, isOneLine_append, hbody]
  rfl

/-- A whole number stays on its line. -/
theorem isOneLine_integerText (n : Int) : isOneLine ((integerText n).map .char) = true := by
  have hdigits := isOneLine_of_isDigit (all_isDigit_naturalText n.natAbs)
  rw [integerText]
  split
  · rw [List.map_cons, isOneLine_cons, hdigits]
    rfl
  · exact hdigits

/-- A finite double stays on its line, being a sign, digits, a point and an exponent. -/
theorem isOneLine_doubleText {x : Binary64} (h : x.isFinite = true) :
    isOneLine (x.text.map .char) = true := by
  cases x with
  | infinite => exact absurd h Bool.false_ne_true
  | nan => exact absurd h Bool.false_ne_true
  | finite negative significand exponent hcanonical =>
      -- Both runs of digits, the point and the exponent stay on their line.
      obtain ⟨hwhole, -, hfraction⟩ := Binary64.isProper_magnitudeParts hcanonical
      have hfractionText :
          isOneLine ((Binary64.magnitudeParts significand exponent).fractionText.map .char)
            = true := by
        rw [DecimalParts.fractionText]
        split
        · rfl
        · rw [List.map_cons, isOneLine_cons, isOneLine_of_isDigit hfraction]
          rfl
      have hpowerText :
          isOneLine ((Binary64.magnitudeParts significand exponent).powerText.map .char)
            = true := by
        rw [DecimalParts.powerText]
        split
        · rfl
        · rename_i n _
          obtain ⟨digits, -, hdigits, -, htext⟩ := Binary64.exponentText_eq n
          rw [htext, List.map_cons, List.map_cons, isOneLine_cons, isOneLine_cons,
            isOneLine_of_isDigit hdigits]
          split <;> rfl
      rw [Binary64.text_finite, DecimalParts.text, List.map_append, List.map_append,
        List.map_append, isOneLine_append, isOneLine_append, isOneLine_append,
        isOneLine_of_isDigit hwhole, hfractionText, hpowerText]
      cases negative with
      | true => rfl
      | false => rfl

/-- Pieces on one line stay on it together: the separator holds no line end. -/
theorem isOneLine_commaJoined {pieces : List (List CodePoint)}
    (h : pieces.all isOneLine = true) : isOneLine (commaJoined pieces) = true := by
  induction pieces with
  | nil => rfl
  | cons piece others ih =>
      rw [List.all_cons, Bool.and_eq_true] at h
      cases others with
      | nil => exact h.1
      | cons next rest =>
          have hjoined : commaJoined (piece :: next :: rest)
              = piece ++ [.char ',', .char ' '] ++ commaJoined (next :: rest) := rfl
          rw [hjoined, isOneLine_append, isOneLine_append, h.1, ih h.2]
          rfl

namespace Literal

mutual

/-- The text of a readable literal stays on its line. By induction on the literal, together with the
items of lists and the fields of objects. -/
theorem isOneLine_write : ∀ x : Literal, x.isReadable = true → isOneLine x.write = true
  | .null, _ => rfl
  | .text content, _ => isOneLine_jsonQuoted content.toList
  | .dimension d, _ => isOneLine_jsonQuoted (Text.ofString d.text).toList
  | .int number, _ => isOneLine_integerText number
  | .float number, _ => by
      rw [write, numberText]
      -- A double is written as a whole number, as a double, or as null.
      split
      · rename_i hfinite
        split
        · exact isOneLine_integerText _
        · exact isOneLine_doubleText hfinite
      · rfl
  | .numericFlag true, _ => rfl
  | .numericFlag false, _ => rfl
  | .bool true, _ => rfl
  | .bool false, _ => rfl
  | .list items, h => by
      rw [write, listText, isOneLine_cons, isOneLine_append,
        isOneLine_commaJoined (isOneLine_writeItems items h)]
      rfl
  | .object [], _ => rfl
  | .object (field :: fields), h => by
      show isOneLine (.char '\x7b' :: .char ' ' ::
        (commaJoined (writeFields (field :: fields)) ++ [.char ' ', .char '\x7d'])) = true
      rw [isOneLine_cons, isOneLine_cons, isOneLine_append,
        isOneLine_commaJoined (isOneLine_writeFields (field :: fields) h)]
      rfl
  | .foreign _, h => absurd h Bool.false_ne_true

/-- The texts of readable items stay on their line. -/
theorem isOneLine_writeItems : ∀ xs : List Literal, areReadable xs = true →
    (writeItems xs).all isOneLine = true
  | [], _ => rfl
  | x :: xs, h => by
      rw [areReadable, Bool.and_eq_true] at h
      rw [writeItems, List.all_cons, isOneLine_write x h.1, isOneLine_writeItems xs h.2]
      rfl

/-- The texts of readable fields stay on their line. -/
theorem isOneLine_writeFields : ∀ fields : List (Text × Literal),
    areFieldsReadable fields = true → (writeFields fields).all isOneLine = true
  | [], _ => rfl
  | (name, x) :: fields, h => by
      rw [areFieldsReadable, Bool.and_eq_true, Bool.and_eq_true] at h
      obtain ⟨⟨hname, hx⟩, hfields⟩ := h
      rw [writeFields, List.all_cons, isOneLine_append, isOneLine_of_isName hname, isOneLine_cons,
        isOneLine_cons, isOneLine_write x hx, isOneLine_writeFields fields hfields]
      rfl

end

end Literal

/-- The text of an expressible value stays on its line, so that a query can be taken apart at its
line ends. -/
theorem Value.IsExpressible.isOneLine {v : Value} (h : v.IsExpressible) :
    FacetSearch.isOneLine v.literalText.toList = true :=
  Literal.isOneLine_write _ h.isReadable

end FacetSearch
