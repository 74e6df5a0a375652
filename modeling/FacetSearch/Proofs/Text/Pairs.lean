import FacetSearch.Proofs.Text.CodePoint
import FacetSearch.Proofs.Text.Unicode

/-!
# `FacetSearch.Proofs.Text.Pairs`: surrogates side by side

A text may hold a high surrogate right before a low one. To itself it then holds two code points,
and it differs from the text with the one character that the pair spells. To what writes it by its
UTF-16 units the two texts are one. `CodePoint.joinPairs` reads the units of a text as such a writer
means them, and leaves no pair behind (`joinPairs_joinPairs`).

A text is unpaired (`Text.IsUnpaired`) when this changes nothing. Texts of characters are, and so
are texts with lone surrogates among the characters. ASCII escaping does not tell a text from its
joined one (`flatMap_asciiPoint_joinPairs`), so unpaired texts are the ones that it can tell apart.
-/

set_option autoImplicit false

namespace FacetSearch

namespace CodePoint

/-- Whether two neighbours spell one character: a high surrogate and a low one after it. -/
def isPair (a b : CodePoint) : Bool := isHigh a.toNat && isLow b.toNat

/-- The code points with every pair of neighbours joined that spells a character. Pairs are found
from the start on, as a reader of units finds them. -/
def joinPairs : List CodePoint → List CodePoint
  | [] => []
  | [a] => [a]
  | a :: b :: rest =>
      if a.isPair b then ofPair a.toNat b.toNat :: joinPairs rest else a :: joinPairs (b :: rest)

/-- A character is the first of no pair, so pairs are made of surrogates alone. -/
@[simp]
theorem isPair_char (c : Char) (b : CodePoint) : isPair (.char c) b = false := by
  rw [isPair, toNat, isHigh_toNat_char, Bool.false_and]

/-- Whatever comes first stands for itself when it is the first of no pair. With nothing behind it
there is no pair either. -/
theorem joinPairs_cons {a : CodePoint} {rest : List CodePoint}
    (h : ∀ b ∈ rest.head?, a.isPair b = false) : joinPairs (a :: rest) = a :: joinPairs rest := by
  cases rest with
  | nil => rfl
  | cons b rest => rw [joinPairs, h b rfl, if_neg (by decide)]

/-- Joining pairs adds no low surrogate in front: what comes first is the first code point as it
was, or a character. So no new pair can form with what stands before. -/
theorem head?_joinPairs (a : CodePoint) (rest : List CodePoint) :
    (joinPairs (a :: rest)).head? = some a ∨
      ∃ c, (joinPairs (a :: rest)).head? = some (.char c) := by
  cases rest with
  | nil => exact Or.inl rfl
  | cons b rest =>
      rw [joinPairs]
      split
      · exact Or.inr ⟨_, rfl⟩
      · exact Or.inl rfl

/-- No pair is left after joining: one pass finds them all, because what it makes is a character and
characters pair with nothing. -/
theorem joinPairs_joinPairs (points : List CodePoint) :
    joinPairs (joinPairs points) = joinPairs points := by
  -- Along the function, which takes two code points at a pair and one otherwise.
  induction points using joinPairs.induct with
  | case1 => rfl
  | case2 a => rfl
  | case3 a b rest hpair ih =>
      rw [joinPairs, if_pos hpair, ofPair, joinPairs_cons fun d _ => isPair_char _ d, ih]
  | case4 a b rest hpair ih =>
      rw [joinPairs, if_neg hpair, joinPairs_cons, ih]
      intro d hd
      -- The neighbour is the second code point still, or has become a character with the third.
      rcases head?_joinPairs b rest with hhead | ⟨c, hhead⟩
      · rw [hhead] at hd
        rw [← Option.some.inj hd]
        exact Bool.not_eq_true _ ▸ hpair
      · rw [hhead] at hd
        rw [← Option.some.inj hd, isPair, toNat, isLow_toNat_char, Bool.and_false]

/-- Characters have no pairs among them, so a text without surrogates is left as it is. -/
theorem joinPairs_map_char (chars : List Char) : joinPairs (chars.map .char) = chars.map .char := by
  induction chars with
  | nil => rfl
  | cons c rest ih => rw [List.map_cons, joinPairs_cons fun b _ => isPair_char c b, ih]

/-- The character of a number that is one's has that number. -/
theorem toNat_charOfNat {n : Nat} (h : n.isValidChar) : (Char.ofNat n).toNat = n := by
  rw [Char.ofNat, dif_pos h]
  rfl

/-- A pair is escaped as the character that it spells. The escape of a character past the basic
plane is by its two UTF-16 units, and these are the numbers of the pair. -/
theorem asciiPoint_ofPair {a b : CodePoint} (h : a.isPair b = true) :
    asciiPoint (ofPair a.toNat b.toNat) = asciiPoint a ++ asciiPoint b := by
  obtain ⟨hhigh, hlow⟩ := Bool.and_eq_true_iff.mp h
  cases a with
  | char c => rw [toNat, isHigh_toNat_char] at hhigh; cases hhigh
  | surrogate high =>
      cases b with
      | char c => rw [toNat, isLow_toNat_char] at hlow; cases hlow
      | surrogate low =>
          rw [isHigh, toNat, Bool.and_eq_true, decide_eq_true_iff, decide_eq_true_iff] at hhigh
          rw [isLow, toNat, Bool.and_eq_true, decide_eq_true_iff, decide_eq_true_iff] at hlow
          have hlast := low.isLt
          -- The number of the character is made of ten bits of each surrogate, and the escape takes
          -- them apart again.
          have hchar : (Char.ofNat (65536 + (55296 + high.val - 55296) * 1024
              + (55296 + low.val - 56320))).toNat
                = 65536 + high.val * 1024 + (low.val - 1024) := by
            rw [toNat_charOfNat (Or.inr ⟨by omega, by omega⟩)]
            omega
          have hfirst : 55296 + (65536 + high.val * 1024 + (low.val - 1024) - 65536) / 1024
              = 55296 + high.val := by omega
          have hsecond : 56320 + (65536 + high.val * 1024 + (low.val - 1024) - 65536) % 1024
              = 55296 + low.val := by omega
          rw [ofPair, asciiPoint, asciiPoint, asciiPoint, asciiEscape, toNat, toNat, hchar,
            if_neg (by omega), if_neg (by omega), List.map_append, hfirst, hsecond]

/-- **ASCII escaping writes a text as it writes the text with its pairs joined.** So it cannot tell
a text from the joined one, which is a different text as soon as there is a pair. -/
theorem flatMap_asciiPoint_joinPairs (points : List CodePoint) :
    (joinPairs points).flatMap asciiPoint = points.flatMap asciiPoint := by
  induction points using joinPairs.induct with
  | case1 => rfl
  | case2 a => rfl
  | case3 a b rest hpair ih =>
      rw [joinPairs, if_pos hpair, List.flatMap_cons, asciiPoint_ofPair hpair, ih,
        List.append_assoc, List.flatMap_cons, List.flatMap_cons]
  | case4 a b rest hpair ih =>
      rw [joinPairs, if_neg hpair, List.flatMap_cons, ih, ← List.flatMap_cons]

end CodePoint

namespace Text

/-- The text with every pair of surrogates joined into the character that it spells. -/
def joinPairs (t : Text) : Text := ofList (CodePoint.joinPairs t.toList)

/-- A text in which no high surrogate stands right before a low one. Lone surrogates may stand in it
anywhere else. -/
def IsUnpaired (t : Text) : Prop := t.joinPairs = t

instance (t : Text) : Decidable t.IsUnpaired := inferInstanceAs (Decidable (_ = _))

/-- A text of any code points, with pairs of surrogates or without. -/
abbrev IsAny : Text → Prop := fun _ => True

/-- No pair is left after joining, so every text has an unpaired one that is escaped like it. -/
theorem isUnpaired_joinPairs (t : Text) : t.joinPairs.IsUnpaired :=
  congrArg ofList (CodePoint.joinPairs_joinPairs t.toList)

/-- Unicode texts have no surrogates, so they have no pairs of them. -/
theorem IsUnicode.isUnpaired {t : Text} (h : t.IsUnicode) : t.IsUnpaired := by
  obtain ⟨chars, rfl⟩ := isUnicode_iff.mp h
  exact congrArg ofList (CodePoint.joinPairs_map_char chars)

end Text

end FacetSearch
