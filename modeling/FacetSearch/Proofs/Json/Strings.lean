import FacetSearch.Proofs.Text.Pairs
import FacetSearch.Proofs.Text.Quoted

/-!
# `FacetSearch.Proofs.Json.Strings`: quoted strings are read back

A string is written code point by code point, each as itself or as an escape. The reader of strings
undoes an escaping on the texts that it reads back from it (`Json.IsUndone`), up to the closing
quote and whatever follows.

JSON escaping is undone on every text, `isUndone_jsonPoint`: a surrogate stands for itself there, so
each code point is read back alone. ASCII escaping writes surrogates by their units, and the reader
joins a high one with a low one right after it. So it reads back the text with its pairs joined
(`readString?_asciiPoint`), and ASCII escaping is undone on unpaired texts alone,
`isUndone_asciiPoint`.

It follows that a quoted string tells its content among the texts on which its escaping is undone,
and also where it ends: `quotedBy_append_inj`.
-/

set_option autoImplicit false

namespace FacetSearch

/-- A text in quotes, each code point escaped. -/
def quotedBy (escape : CodePoint → List CodePoint) (text : Text) : List CodePoint :=
  .char '"' :: (text.toList.flatMap escape ++ [.char '"'])

namespace Json

/-- An escaping that the reader of strings undoes on a class of texts: it reads the escaped text up
to the closing quote, in as many steps as there are code points before it, and leaves the rest. -/
def IsUndone (P : Text → Prop) (escape : CodePoint → List CodePoint) : Prop :=
  ∀ text : Text, P text → ∀ (rest : List CodePoint) (fuel : Nat),
    (text.toList.flatMap escape).length < fuel →
    readString? fuel (text.toList.flatMap escape ++ .char '"' :: rest) = some (text.toList, rest)

/-! ### Units -/

/-- A hexadecimal digit is read back. -/
theorem hexValue?_digitChar {n : Nat} (h : n < 16) : hexValue? (Nat.digitChar n) = some n := by
  revert n
  decide

/-- The four digits of a unit are read back. The unit is below 65536, so four digits hold all of
it. -/
theorem readUnit?_hexDigits {unit : Nat} (h : unit < 65536) (rest : List CodePoint) :
    readUnit? ((hexDigits 4 unit).map .char ++ rest) = some (unit, rest) := by
  have hdigit (n : Nat) : hexValue? (Nat.digitChar (n % 16)) = some (n % 16) :=
    hexValue?_digitChar (Nat.mod_lt n (by decide))
  show readUnit? (.char (Nat.digitChar (unit / 16 / 16 / 16 % 16)) ::
    .char (Nat.digitChar (unit / 16 / 16 % 16)) :: .char (Nat.digitChar (unit / 16 % 16)) ::
    .char (Nat.digitChar (unit % 16)) :: rest) = _
  rw [readUnit?, hdigit, hdigit, hdigit, hdigit]
  show some (_, rest) = _
  congr 2
  omega

/-- An escaped unit stands for itself unless it is a high surrogate and the escape of a low one
follows. -/
theorem readEscapedPoint_of_not_pair {unit : Nat} {rest : List CodePoint}
    (h : ∀ more low after, rest = .char '\\' :: .char 'u' :: more →
      readUnit? more = some (low, after) →
      (CodePoint.isHigh unit && CodePoint.isLow low) = false) :
    readEscapedPoint unit rest = (.ofUnit unit, rest) := by
  unfold readEscapedPoint
  split
  · split
    · rename_i low after hread
      rw [h _ low after rfl hread, if_neg (by decide)]
    · rfl
  · rfl

/-- An escaped unit that is no high surrogate stands for itself, whatever follows. -/
theorem readEscapedPoint_of_not_isHigh {unit : Nat} (h : CodePoint.isHigh unit = false)
    (rest : List CodePoint) : readEscapedPoint unit rest = (.ofUnit unit, rest) :=
  readEscapedPoint_of_not_pair fun _ _ _ _ _ => by rw [h, Bool.false_and]

/-- A high surrogate takes the low one that is escaped right after it, and the two are read as one
character. -/
theorem readEscapedPoint_of_isHigh {high low : Nat} (hhigh : CodePoint.isHigh high = true)
    (hlow : CodePoint.isLow low = true) (rest : List CodePoint) :
    readEscapedPoint high ((unitEscape low).map .char ++ rest) = (.ofPair high low, rest) := by
  have hbound : low < 65536 := by
    rw [CodePoint.isLow, Bool.and_eq_true, decide_eq_true_iff, decide_eq_true_iff] at hlow
    omega
  show readEscapedPoint high (.char '\\' :: .char 'u' :: ((hexDigits 4 low).map .char ++ rest)) = _
  rw [readEscapedPoint, readUnit?_hexDigits hbound]
  simp only [hhigh, hlow, Bool.and_self, if_true]

/-- An escaped unit is read, together with the low surrogate that it may take. -/
theorem readString?_unitEscape {unit : Nat} (h : unit < 65536) (fuel : Nat)
    (rest : List CodePoint) :
    readString? (fuel + 1) ((unitEscape unit).map .char ++ rest)
      = (readString? fuel (readEscapedPoint unit rest).2).map fun (points, after) =>
        ((readEscapedPoint unit rest).1 :: points, after) := by
  show readString? (fuel + 1)
    (.char '\\' :: .char 'u' :: ((hexDigits 4 unit).map .char ++ rest)) = _
  rw [readString?, readUnit?_hexDigits h]
  show (readString? fuel (readEscapedPoint unit rest).2).bind _ = _
  cases readString? fuel (readEscapedPoint unit rest).2 with
  | none => rfl
  | some read => rfl

/-! ### Code points on their own -/

/-- The escape of a character of the basic plane is read back. -/
theorem readString?_unitEscape_toNat {c : Char} (h : c.toNat < 65536) (fuel : Nat)
    (rest : List CodePoint) :
    readString? (fuel + 1) ((unitEscape c.toNat).map .char ++ rest)
      = (readString? fuel rest).map fun (points, after) => (.char c :: points, after) := by
  have hpoint : CodePoint.ofUnit c.toNat = .char c := CodePoint.ofUnit_toNat (.char c)
  rw [readString?_unitEscape h, readEscapedPoint_of_not_isHigh (CodePoint.isHigh_toNat_char c),
    hpoint]

/-- The escape of a character past the basic plane is read back: its two surrogates are joined. -/
theorem readString?_surrogates {c : Char} (h : 65536 ≤ c.toNat) (fuel : Nat)
    (rest : List CodePoint) :
    readString? (fuel + 1) ((unitEscape (55296 + (c.toNat - 65536) / 1024) ++
        unitEscape (56320 + (c.toNat - 65536) % 1024)).map .char ++ rest)
      = (readString? fuel rest).map fun (points, after) => (.char c :: points, after) := by
  have hlast := CodePoint.toNat_lt_of_char c
  -- The units are a high and a low surrogate, whatever the character, and their ten bits each give
  -- its number.
  have hhigh : CodePoint.isHigh (55296 + (c.toNat - 65536) / 1024) = true := by
    rw [CodePoint.isHigh, Bool.and_eq_true, decide_eq_true_iff, decide_eq_true_iff]
    omega
  have hlow : CodePoint.isLow (56320 + (c.toNat - 65536) % 1024) = true := by
    rw [CodePoint.isLow, Bool.and_eq_true, decide_eq_true_iff, decide_eq_true_iff]
    omega
  have hpoint : CodePoint.ofPair (55296 + (c.toNat - 65536) / 1024)
      (56320 + (c.toNat - 65536) % 1024) = .char c := by
    rw [CodePoint.ofPair, show 65536 + (55296 + (c.toNat - 65536) / 1024 - 55296) * 1024
      + (56320 + (c.toNat - 65536) % 1024 - 56320) = c.toNat by omega, Char.ofNat_toNat]
  rw [List.map_append, List.append_assoc, readString?_unitEscape (by omega),
    readEscapedPoint_of_isHigh hhigh hlow, hpoint]

/-- A code point that is written as itself is read as itself. The quote, the backslash and the
control characters are always escaped. -/
theorem readString?_plain {point : CodePoint} (hquote : point ≠ .char '"')
    (hslash : point ≠ .char '\\') (hcontrol : ¬ point.toNat < 32) (fuel : Nat)
    (rest : List CodePoint) :
    readString? (fuel + 1) (point :: rest)
      = (readString? fuel rest).map fun (points, after) => (point :: points, after) := by
  have hplain : ¬ (point = .char '\\' ∨ point.toNat < 32) := not_or.mpr ⟨hslash, hcontrol⟩
  rw [readString?, if_neg hplain]
  · cases readString? fuel rest with
    | none => rfl
    | some read => rfl
  · exact hquote
  · exact fun _ heq _ => hslash heq
  · exact fun _ _ heq _ => hslash heq

/-- JSON escaping of a code point is read back, whatever follows. -/
theorem readString?_jsonPoint (point : CodePoint) (fuel : Nat) (rest : List CodePoint) :
    readString? (fuel + 1) (jsonPoint point ++ rest)
      = (readString? fuel rest).map fun (points, after) => (point :: points, after) := by
  cases point with
  | surrogate offset =>
      exact readString?_plain (fun heq => by cases heq) (fun heq => by cases heq)
        (by rw [CodePoint.toNat]; omega) fuel rest
  | char c =>
      rw [jsonPoint]
      -- The writer has a short escape, the escape of a unit, or the character itself.
      rcases jsonEscape_cases c with ⟨letter, hletter, htext⟩ | ⟨hcontrol, htext⟩ |
        ⟨hquote, hslash, hcontrol, htext⟩
      · -- No short escape is that of a unit, so the two are not taken for each other.
        have hunit : CodePoint.char letter ≠ .char 'u' := by
          intro heq
          rw [CodePoint.char.inj heq] at hletter
          cases hletter
        rw [htext]
        show readString? (fuel + 1) (.char '\\' :: .char letter :: rest) = _
        rw [readString?]
        · show ((shortEscape? letter).bind _) = _
          rw [hletter]
          show (readString? fuel rest).bind _ = _
          cases readString? fuel rest with
          | none => rfl
          | some read => rfl
        · exact fun heq => hunit heq
      · rw [htext, readString?_unitEscape_toNat (by omega)]
      · rw [htext]
        exact readString?_plain (fun heq => hquote (CodePoint.char.inj heq))
          (fun heq => hslash (CodePoint.char.inj heq)) hcontrol fuel rest

/-- ASCII escaping of a character is read back, whatever follows: a character past the basic plane
is written as two surrogates, which are joined again. -/
theorem readString?_asciiEscape (c : Char) (fuel : Nat) (rest : List CodePoint) :
    readString? (fuel + 1) ((asciiEscape c).map .char ++ rest)
      = (readString? fuel rest).map fun (points, after) => (.char c :: points, after) := by
  rw [asciiEscape]
  split
  · exact readString?_jsonPoint (.char c) fuel rest
  · split
    · rename_i hplane
      exact readString?_unitEscape_toNat hplane fuel rest
    · rename_i hplane
      exact readString?_surrogates (Nat.not_lt.mp hplane) fuel rest

/-! ### Surrogates by their units -/

/-- The escape of a character is not that of a low surrogate alone. So a high surrogate in front of
it makes no pair with it. -/
theorem isLow_of_asciiEscape {c : Char} {more rest after : List CodePoint} {low : Nat}
    (heq : (asciiEscape c).map CodePoint.char ++ rest = .char '\\' :: .char 'u' :: more)
    (hread : readUnit? more = some (low, after)) : CodePoint.isLow low = false := by
  have hvalid := CodePoint.toNat_lt_or_lt_toNat c
  have hlast := CodePoint.toNat_lt_of_char c
  -- What is escaped by a unit starts with this unit: the number of the character, or a high one.
  have hunit : ∀ unit tail, unit < 65536 → CodePoint.isLow unit = false →
      (unitEscape unit).map CodePoint.char ++ tail = .char '\\' :: .char 'u' :: more →
      CodePoint.isLow low = false := by
    intro unit tail hbound hnot heq
    have hmore : (hexDigits 4 unit).map CodePoint.char ++ tail = more :=
      (List.cons.inj (List.cons.inj heq).2).2
    rw [← hmore, readUnit?_hexDigits hbound] at hread
    rw [← (Prod.mk.inj (Option.some.inj hread)).1]
    exact hnot
  rw [asciiEscape] at heq
  split at heq
  · rcases jsonEscape_cases c with ⟨letter, hletter, htext⟩ | ⟨hcontrol, htext⟩ |
      ⟨-, hslash, -, htext⟩ <;> rw [htext] at heq
    · have hu := CodePoint.char.inj (List.cons.inj (List.cons.inj heq).2).1
      rw [hu] at hletter
      cases hletter
    · exact hunit _ _ (by omega) (CodePoint.isLow_toNat_char c) heq
    · exact absurd (CodePoint.char.inj (List.cons.inj heq).1) hslash
  · split at heq
    · rename_i hplane
      exact hunit _ _ hplane (CodePoint.isLow_toNat_char c) heq
    · rw [List.map_append, List.append_assoc] at heq
      refine hunit _ _ (by omega) ?_ heq
      rw [CodePoint.isLow, Bool.and_eq_false_iff, decide_eq_false_iff_not]
      exact Or.inl (by omega)

/-- The escaped unit of a surrogate stands for itself, unless it makes a pair with what is escaped
right after it. -/
theorem readEscapedPoint_surrogate {offset : Fin 2048} {b : CodePoint} (rest : List CodePoint)
    (h : (CodePoint.surrogate offset).isPair b = false) :
    readEscapedPoint (55296 + offset.val) (asciiPoint b ++ rest)
      = (.surrogate offset, asciiPoint b ++ rest) := by
  have hpoint : CodePoint.ofUnit (55296 + offset.val) = .surrogate offset :=
    CodePoint.ofUnit_toNat (.surrogate offset)
  rw [← hpoint]
  refine readEscapedPoint_of_not_pair fun more low after heq hread => ?_
  -- A character behind it is escaped by no low surrogate first, and a surrogate behind it is no low
  -- one by assumption.
  cases b with
  | char c => rw [isLow_of_asciiEscape heq hread, Bool.and_false]
  | surrogate second =>
      have hbound : 55296 + second.val < 65536 := by omega
      have hmore : (hexDigits 4 (55296 + second.val)).map CodePoint.char ++ rest = more :=
        (List.cons.inj (List.cons.inj heq).2).2
      rw [← hmore, readUnit?_hexDigits hbound] at hread
      rw [← (Prod.mk.inj (Option.some.inj hread)).1]
      exact h

/-- **A string in ASCII is read with its pairs joined.** By induction along the joining of pairs,
whose cases are those of the reader: the end, one code point alone, a pair, and a code point before
another. -/
theorem readString?_asciiPoint (content rest : List CodePoint) (fuel : Nat)
    (hfuel : content.length < fuel) :
    readString? fuel (content.flatMap asciiPoint ++ .char '"' :: rest)
      = some (CodePoint.joinPairs content, rest) := by
  induction content using CodePoint.joinPairs.induct generalizing fuel with
  | case1 => cases fuel with
      | zero => cases hfuel
      | succ fuel => rfl
  | case2 a =>
      obtain ⟨fuel, rfl⟩ : ∃ n, fuel = n + 2 := Nat.exists_eq_add_of_le' hfuel
      cases a with
      | char c =>
          rw [List.flatMap_singleton, asciiPoint, readString?_asciiEscape]
          rfl
      | surrogate offset =>
          -- The closing quote makes no pair with it.
          show readString? _ ((unitEscape _).map .char ++ .char '"' :: rest) = _
          rw [readString?_unitEscape (by omega),
            readEscapedPoint_of_not_pair fun _ _ _ heq _ => by cases heq]
          show some ([CodePoint.ofUnit (CodePoint.surrogate offset).toNat], rest) = _
          rw [CodePoint.ofUnit_toNat]
          rfl
  | case3 a b others hpair ih =>
      obtain ⟨hhigh, hlow⟩ := Bool.and_eq_true_iff.mp hpair
      obtain ⟨fuel, rfl⟩ := Nat.exists_eq_add_one_of_ne_zero (Nat.ne_zero_of_lt hfuel)
      -- Both escapes are read in one step.
      cases a with
      | char c => rw [CodePoint.toNat, CodePoint.isHigh_toNat_char] at hhigh; cases hhigh
      | surrogate high =>
          cases b with
          | char c => rw [CodePoint.toNat, CodePoint.isLow_toNat_char] at hlow; cases hlow
          | surrogate low =>
              rw [List.flatMap_cons, List.flatMap_cons, List.append_assoc, List.append_assoc]
              show readString? (fuel + 1) ((unitEscape (55296 + high.val)).map .char ++
                ((unitEscape (55296 + low.val)).map .char ++ _)) = _
              rw [CodePoint.toNat] at hhigh hlow
              rw [readString?_unitEscape (by omega), readEscapedPoint_of_isHigh hhigh hlow,
                ih fuel (by simp only [List.length_cons] at hfuel; omega), CodePoint.joinPairs,
                if_pos hpair]
              rfl
  | case4 a b others hpair ih =>
      obtain ⟨fuel, rfl⟩ := Nat.exists_eq_add_one_of_ne_zero (Nat.ne_zero_of_lt hfuel)
      have hread := ih fuel (by simpa using hfuel)
      rw [List.flatMap_cons, List.append_assoc, CodePoint.joinPairs, if_neg hpair]
      cases a with
      | char c =>
          show readString? (fuel + 1) ((asciiEscape c).map .char ++ _) = _
          rw [readString?_asciiEscape, hread]
          rfl
      | surrogate offset =>
          rw [List.flatMap_cons, List.append_assoc] at hread ⊢
          show readString? (fuel + 1) ((unitEscape (55296 + offset.val)).map .char ++ _) = _
          rw [readString?_unitEscape (by omega),
            readEscapedPoint_surrogate _ (Bool.not_eq_true _ ▸ hpair), hread]
          rfl

/-! ### Strings -/

/-- Escaping leaves no code point out, so the length of the escaped text is fuel enough for the code
points. -/
theorem length_le_flatMap {escape : CodePoint → List CodePoint} (h : ∀ point, escape point ≠ [])
    (content : List CodePoint) : content.length ≤ (content.flatMap escape).length := by
  induction content with
  | nil => exact Nat.le_refl _
  | cons point others ih =>
      have hpoint : 0 < (escape point).length := List.length_pos_iff.mpr (h point)
      rw [List.flatMap_cons, List.length_append, List.length_cons]
      omega

/-- JSON escaping writes every code point. -/
theorem jsonPoint_ne_nil (point : CodePoint) : jsonPoint point ≠ [] := by
  cases point with
  | surrogate => exact List.cons_ne_nil _ _
  | char c =>
      rw [jsonPoint]
      rcases jsonEscape_cases c with ⟨letter, -, htext⟩ | ⟨-, htext⟩ | ⟨-, -, -, htext⟩ <;>
        rw [htext] <;> exact List.cons_ne_nil _ _

/-- ASCII escaping writes every code point. -/
theorem asciiPoint_ne_nil (point : CodePoint) : asciiPoint point ≠ [] := by
  cases point with
  | surrogate => exact List.cons_ne_nil _ _
  | char c =>
      rw [asciiPoint, asciiEscape]
      split
      · exact jsonPoint_ne_nil (.char c)
      · split <;> exact List.cons_ne_nil _ _

/-- **JSON escaping is undone on every text.** -/
theorem isUndone_jsonPoint : IsUndone Text.IsAny jsonPoint := by
  intro text _ rest fuel hfuel
  have hlength := length_le_flatMap jsonPoint_ne_nil text.toList
  -- The fuel is the number of code points, one more for the quote, and some to spare.
  obtain ⟨spare, rfl⟩ : ∃ spare, fuel = spare + 1 + text.toList.length :=
    ⟨fuel - 1 - text.toList.length, by omega⟩
  clear hfuel hlength
  induction text.toList with
  | nil => rfl
  | cons point others ih =>
      rw [List.flatMap_cons, List.append_assoc, List.length_cons, ← Nat.add_assoc,
        readString?_jsonPoint, ih]
      rfl

/-- **ASCII escaping is undone on unpaired texts.** -/
theorem isUndone_asciiPoint : IsUndone Text.IsUnpaired asciiPoint := by
  intro text htext rest fuel hfuel
  have hlength := length_le_flatMap asciiPoint_ne_nil text.toList
  rw [readString?_asciiPoint text.toList rest fuel (by omega)]
  exact congrArg (fun t : Text => some (t.toList, rest)) htext

/-- A quoted string tells its content and where it ends: the reader gets both back from the same
text. -/
theorem quotedBy_append_inj {P : Text → Prop} {escape : CodePoint → List CodePoint}
    (h : IsUndone P escape) {content content' : Text} (hcontent : P content)
    (hcontent' : P content') {rest rest' : List CodePoint}
    (heq : quotedBy escape content ++ rest = quotedBy escape content' ++ rest') :
    content = content' ∧ rest = rest' := by
  have hbody : content.toList.flatMap escape ++ .char '"' :: rest
      = content'.toList.flatMap escape ++ .char '"' :: rest' := by
    simpa [quotedBy] using heq
  let fuel := (content.toList.flatMap escape).length + (content'.toList.flatMap escape).length + 1
  have hread := h content hcontent rest fuel (by omega)
  rw [hbody, h content' hcontent' rest' fuel (by omega), Option.some.injEq, Prod.mk.injEq] at hread
  exact ⟨Text.toList_inj.mp hread.1.symm, hread.2.symm⟩

end Json

end FacetSearch
