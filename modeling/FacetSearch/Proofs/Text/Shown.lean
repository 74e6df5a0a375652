import FacetSearch.Proofs.Json.Strings
import FacetSearch.Value.Shown
import Mathlib.Tactic.Ring

/-!
# `FacetSearch.Proofs.Text.Shown`: shown strings tell their content

A shown string stands between two quote marks of one kind, and inside it every code point is written
as itself or as an escape. `shownPoint?` reads the first of them back, so two shown strings with any
texts behind them are the same only when their code points are and the texts behind them are:
`shownQuoted_append_inj`.
-/

set_option autoImplicit false

namespace FacetSearch

/-! ### Reading one code point -/

/-- The number that so many hexadecimal digits are, after the digits of another number. The count is
fixed beforehand, so what stands behind the digits is not looked at. -/
def readHex? : Nat → Nat → List Char → Option (Nat × List Char)
  | 0, number, rest => some (number, rest)
  | _ + 1, _, [] => none
  | count + 1, number, c :: rest =>
      (hexValue? c).bind fun digit => readHex? count (number * 16 + digit) rest

/-- How many digits stand behind the letter of an escape. Other letters have none and stand for a
character. -/
def escapedDigits? : Char → Option Nat
  | 'x' => some 2
  | 'u' => some 4
  | 'U' => some 8
  | _ => none

/-- The character that a letter behind a backslash stands for. The backslash and the marks stand for
themselves. -/
def unescaped : Char → Char
  | 'n' => '\n'
  | 'r' => '\r'
  | 't' => '\t'
  | c => c

/-- The code point of an escape, from the text behind the backslash. -/
def escapedPoint? : List Char → Option (CodePoint × List Char)
  | [] => none
  | letter :: rest =>
      match escapedDigits? letter with
      | some count => (readHex? count 0 rest).map fun (number, after) => (.ofUnit number, after)
      | none => some (.char (unescaped letter), rest)

/-- The first code point of a shown text, and what follows. It does not know the mark, so the
closing one must be told by what comes first. -/
def shownPoint? : List Char → Option (CodePoint × List Char)
  | [] => none
  | c :: rest => if c = '\\' then escapedPoint? rest else some (.char c, rest)

/-- The lowest digits of a number are read, and the reader goes on with what is left to read. The
number so far is shifted by them. -/
theorem readHex?_hexDigits (count spare number n : Nat) (rest : List Char) :
    readHex? (count + spare) number (hexDigits count n ++ rest)
      = readHex? spare (number * 16 ^ count + n % 16 ^ count) rest := by
  -- On the digits that are written. The reader takes them from the front, so it must be free to
  -- have more to read.
  induction count generalizing n spare rest with
  | zero => simp [hexDigits, Nat.mod_one]
  | succ count ih =>
      have hdigit : hexValue? (Nat.digitChar (n % 16)) = some (n % 16) :=
        Json.hexValue?_digitChar (Nat.mod_lt n (by decide))
      have hnumber : (number * 16 ^ count + n / 16 % 16 ^ count) * 16 + n % 16
          = number * 16 ^ (count + 1) + n % 16 ^ (count + 1) := by
        rw [Nat.pow_succ', Nat.mod_mul]
        ring
      -- The lowest digit is written last, so it is the first thing left behind the others.
      rw [hexDigits, List.append_assoc, List.singleton_append, Nat.add_assoc, Nat.add_comm 1, ih,
        readHex?, hdigit, Option.bind_some, hnumber]

/-- A number is read from as many digits as it has, with leading zeros if need be. -/
theorem readHex?_of_lt {count n : Nat} (h : n < 16 ^ count) (rest : List Char) :
    readHex? count 0 (hexDigits count n ++ rest) = some (n, rest) := by
  have hread := readHex?_hexDigits count 0 0 n rest
  rwa [Nat.add_zero, Nat.zero_mul, Nat.zero_add, Nat.mod_eq_of_lt h, readHex?] at hread

/-! ### Code points -/

/-- The quote marks of shown texts. Which of them is taken depends on the text. -/
def IsMark (mark : Char) : Prop := mark = '\'' ∨ mark = '"'

/-- The mark of a shown text is a quote mark, so it is never the backslash of an escape. -/
theorem isMark_shownMark (text : List CodePoint) : IsMark (shownMark text) := by
  rw [shownMark]
  split
  · exact Or.inr rfl
  · exact Or.inl rfl

/-- An escape of a number is read back, for each of the three letters with its count of digits. -/
theorem shownPoint?_hexDigits {letter : Char} {count n : Nat}
    (hletter : escapedDigits? letter = some count) (h : n < 16 ^ count) (rest : List Char) :
    shownPoint? ('\\' :: letter :: hexDigits count n ++ rest) = some (.ofUnit n, rest) := by
  show shownPoint? ('\\' :: letter :: (hexDigits count n ++ rest)) = _
  rw [shownPoint?, if_pos rfl, escapedPoint?, hletter]
  show (readHex? count 0 (hexDigits count n ++ rest)).map _ = _
  rw [readHex?_of_lt h]
  rfl

/-- A character behind a backslash is read back as the one that its letter stands for. -/
theorem shownPoint?_escaped {letter : Char} (hletter : escapedDigits? letter = none)
    (rest : List Char) :
    shownPoint? ('\\' :: letter :: rest) = some (.char (unescaped letter), rest) := by
  rw [shownPoint?, if_pos rfl, escapedPoint?, hletter]

/-- A shown character is read back, in whichever way it is written: escaped as itself, by a letter,
as it is, or by its number. -/
theorem shownPoint?_shownEscape {mark : Char} (hmark : IsMark mark) (c : Char) (rest : List Char) :
    shownPoint? (shownEscape mark c ++ rest) = some (.char c, rest) := by
  have hlast : c.toNat < 1114112 := CodePoint.toNat_lt (.char c)
  rw [shownEscape]
  -- Along the branches of the writer, in its order.
  split
  · rename_i hself
    have hletter : escapedDigits? c = none ∧ unescaped c = c := by
      rcases hself with rfl | rfl
      · rcases hmark with rfl | rfl <;> exact ⟨rfl, rfl⟩
      · exact ⟨rfl, rfl⟩
    have hread := shownPoint?_escaped hletter.1 rest
    rwa [hletter.2] at hread
  rename_i hself
  split
  · rename_i hline
    rw [hline]
    exact shownPoint?_escaped rfl rest
  split
  · rename_i hreturn
    rw [hreturn]
    exact shownPoint?_escaped rfl rest
  split
  · rename_i htab
    rw [htab]
    exact shownPoint?_escaped rfl rest
  split
  · rw [List.singleton_append, shownPoint?, if_neg fun hslash => hself (Or.inr hslash)]
  -- What is not printable is written by its number, with as many digits as are needed.
  rw [← CodePoint.ofUnit_toNat (.char c), CodePoint.toNat]
  split
  · rename_i hbyte
    exact shownPoint?_hexDigits rfl hbyte rest
  split
  · rename_i hunit
    exact shownPoint?_hexDigits rfl hunit rest
  · exact shownPoint?_hexDigits rfl (by omega) rest

/-- A shown code point is read back. A lone surrogate is written by its number, and the reader gives
that surrogate for it. -/
theorem shownPoint?_shownPoint {mark : Char} (hmark : IsMark mark) (point : CodePoint)
    (rest : List Char) : shownPoint? (shownPoint mark point ++ rest) = some (point, rest) := by
  cases point with
  | char c => exact shownPoint?_shownEscape hmark c rest
  | surrogate offset =>
      have hbound : 55296 + offset.val < 16 ^ 4 := by
        have hoffset := offset.isLt
        omega
      have hread := shownPoint?_hexDigits (rfl : escapedDigits? 'u' = some 4) hbound rest
      rwa [← CodePoint.toNat, CodePoint.ofUnit_toNat] at hread

/-- No shown code point starts with the mark, which closes the text: the mark itself is written
behind a backslash. -/
theorem shownPoint_ne_mark {mark : Char} (hmark : IsMark mark) (point : CodePoint)
    (rest after : List Char) : shownPoint mark point ++ rest ≠ mark :: after := by
  have hslash : '\\' ≠ mark := by
    rcases hmark with rfl | rfl <;> decide
  -- Every way to write a code point starts with a backslash, but for the printable characters as
  -- they are.
  have hescape : ∀ text : List Char, '\\' :: text ++ rest ≠ mark :: after := fun _ heq =>
    hslash (List.cons.inj heq).1
  cases point with
  | surrogate unit => exact hescape _
  | char c =>
      rw [shownPoint, shownEscape]
      split
      · exact hescape _
      rename_i hself
      split
      · exact hescape _
      split
      · exact hescape _
      split
      · exact hescape _
      split
      · exact fun heq => hself (Or.inl (List.cons.inj heq).1)
      split
      · exact hescape _
      split
      · exact hescape _
      · exact hescape _

/-! ### Texts -/

/-- The code points of a shown text are told up to its closing mark. Both texts have one mark, so
they end at the same place. -/
theorem flatMap_shownPoint_append_inj {mark : Char} (hmark : IsMark mark)
    {points points' : List CodePoint} {rest rest' : List Char}
    (heq : points.flatMap (shownPoint mark) ++ mark :: rest
      = points'.flatMap (shownPoint mark) ++ mark :: rest') : points = points' ∧ rest = rest' := by
  -- On the code points of one side. A side that is at its end shows the mark, which no code point
  -- starts with.
  induction points generalizing points' with
  | nil =>
      cases points' with
      | nil => exact ⟨rfl, (List.cons.inj heq).2⟩
      | cons point' others' =>
          rw [List.flatMap_cons, List.append_assoc] at heq
          exact absurd heq.symm (shownPoint_ne_mark hmark point' _ _)
  | cons point others ih =>
      cases points' with
      | nil =>
          rw [List.flatMap_cons, List.append_assoc] at heq
          exact absurd heq (shownPoint_ne_mark hmark point _ _)
      | cons point' others' =>
          rw [List.flatMap_cons, List.flatMap_cons, List.append_assoc, List.append_assoc] at heq
          have hread := shownPoint?_shownPoint hmark point
            (others.flatMap (shownPoint mark) ++ mark :: rest)
          rw [heq, shownPoint?_shownPoint hmark point', Option.some.injEq, Prod.mk.injEq] at hread
          obtain ⟨rfl, hbehind⟩ := hread
          obtain ⟨rfl, hrest⟩ := ih hbehind.symm
          exact ⟨rfl, hrest⟩

/-- **A shown string tells its code points**, and where it ends. -/
theorem shownQuoted_append_inj {points points' : List CodePoint} {rest rest' : List Char}
    (heq : shownQuoted points ++ rest = shownQuoted points' ++ rest') :
    points = points' ∧ rest = rest' := by
  -- Both texts start with their marks, so they are written with the same one.
  have hmark : shownMark points = shownMark points' := (List.cons.inj heq).1
  rw [shownQuoted, shownQuoted, ← hmark, List.cons_append, List.cons_append, List.append_assoc,
    List.append_assoc] at heq
  exact flatMap_shownPoint_append_inj (isMark_shownMark _) (List.cons.inj heq).2

/-- Texts of characters in front of any others are equal, or one of them starts the other. This
lifts what holds of characters to code points that stand behind them. -/
theorem map_char_append_eq {s t : List Char} {rest rest' : List CodePoint}
    (heq : s.map CodePoint.char ++ rest = t.map CodePoint.char ++ rest') :
    (∃ u, t = s ++ u ∧ rest = u.map CodePoint.char ++ rest') ∨
      (∃ u, s = t ++ u ∧ rest' = u.map CodePoint.char ++ rest) := by
  -- Along the shorter of the two. Where it ends, the other goes on with characters that the first
  -- one has behind.
  induction s generalizing t with
  | nil => exact .inl ⟨t, rfl, heq⟩
  | cons c s ih =>
      cases t with
      | nil => exact .inr ⟨c :: s, rfl, heq.symm⟩
      | cons d t =>
          obtain ⟨hhead, htail⟩ := List.cons.inj heq
          obtain rfl := CodePoint.char.inj hhead
          rcases ih htail with ⟨u, rfl, hrest⟩ | ⟨u, rfl, hrest⟩
          · exact .inl ⟨u, rfl, hrest⟩
          · exact .inr ⟨u, rfl, hrest⟩

/-- **A shown text tells its content**, and where it ends, whatever code points follow. -/
theorem shownText_append_inj {a b : Text} {rest rest' : List CodePoint}
    (heq : shownText a ++ rest = shownText b ++ rest') : a = b ∧ rest = rest' := by
  rcases map_char_append_eq heq with ⟨u, htext, hrest⟩ | ⟨u, htext, hrest⟩
  · obtain ⟨hpoints, hnil⟩ := shownQuoted_append_inj ((List.append_nil _).trans htext)
    subst hnil
    exact ⟨Text.toList_inj.mp hpoints.symm, hrest⟩
  · obtain ⟨hpoints, hnil⟩ := shownQuoted_append_inj ((List.append_nil _).trans htext)
    subst hnil
    exact ⟨Text.toList_inj.mp hpoints, hrest.symm⟩

end FacetSearch
