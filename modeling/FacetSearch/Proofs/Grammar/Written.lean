import FacetSearch.Literal
import FacetSearch.Proofs.Grammar.Reader

/-!
# `FacetSearch.Proofs.Grammar.Written`: written literals are read back

`Literal.term` is the value of a query that a literal stands for. A dimension is the string of its
name, a whole double is the integer it is, and a number that is not finite is null. The main fact
`readValue?_write` says that the text of a literal is read as this value and nothing of it is left
over.

The proof goes along the literal. Whatever follows the text of a literal, up to what could go on
with its last token, is left as it is (`value?_write`), so the texts of the items of a list can
stand one after the other. A literal is readable when no leaf of it is foreign and the fields of its
objects are named by names.
-/

set_option autoImplicit false

namespace FacetSearch

open Grammar

namespace Literal

mutual

/-- The value of a query that a literal stands for. Doubles are written by the rule of the code, so
a whole one comes back as an integer and an infinite one as null. -/
def term : Literal → Term
  | .null => .null
  | .text content => .text content
  | .dimension d => .text d.text
  | .int number => .int number
  | .float number =>
      if number.isFinite then
        match number.integer? with
        | some n => .int n
        | none => .float number
      else .null
  | .numericFlag flag => .member (if flag then "True" else "False")
  | .bool flag => .bool flag
  | .list items => .list (terms items)
  | .object fields => .object (fieldTerms fields)
  | .foreign _ => .null

/-- The values of the items of a list. -/
def terms : List Literal → List Term
  | [] => []
  | x :: xs => term x :: terms xs

/-- The values of the fields of an object. -/
def fieldTerms : List (Text × Literal) → List (Text × Term)
  | [] => []
  | (name, x) :: rest => (name, term x) :: fieldTerms rest

end

mutual

/-- Whether a literal has no foreign leaf and only names as names of fields. -/
def isReadable : Literal → Bool
  | .list items => areReadable items
  | .object fields => areFieldsReadable fields
  | .foreign _ => false
  | _ => true

/-- Whether the items of a list are readable. -/
def areReadable : List Literal → Bool
  | [] => true
  | x :: xs => isReadable x && areReadable xs

/-- Whether the fields of an object are readable. -/
def areFieldsReadable : List (Text × Literal) → Bool
  | [] => true
  | (name, x) :: rest => isName name && isReadable x && areFieldsReadable rest

end

end Literal

namespace Grammar

/-! ### Reading what was written -/

/-- What stands after a piece stops every token: a separator, a blank or a closing punctuator. So no
token of a piece runs on into what follows it. -/
theorem stops_cons {c : Char} (h : c ∈ [',', ' ', ')', ']', '\x7d']) (rest : List CodePoint) :
    Stops continuesToken (.char c :: rest) := by
  refine Stops.cons ?_ rest
  simp only [List.mem_cons, List.not_mem_nil, or_false] at h
  rcases h with rfl | rfl | rfl | rfl | rfl <;> rfl

/-- A piece in front of others is followed by a separator or by what follows all of them. Either way
the next token after the piece is the same, and no token runs on. -/
theorem commaJoined_cons_append (piece : List CodePoint) (pieces : List (List CodePoint))
    (rest : List CodePoint) :
    ∃ tail, commaJoined (piece :: pieces) ++ rest = piece ++ tail ∧
      next? tail = next? (commaJoined pieces ++ rest) ∧
      (Stops continuesToken rest → Stops continuesToken tail) := by
  -- Whether the piece is the last one decides what follows it.
  cases pieces with
  | nil => exact ⟨rest, rfl, rfl, id⟩
  | cons next others =>
      refine ⟨[.char ',', .char ' '] ++ commaJoined (next :: others) ++ rest, ?_, ?_, fun _ => ?_⟩
      · rw [commaJoined, joined]
        simp [commaJoined]
      · exact next?_separator _
      · exact stops_cons (by decide) _

/-- A piece and the others take up no more than all of them together, so fuel for all is enough for
each. -/
theorem length_commaJoined_cons (piece : List CodePoint) (pieces : List (List CodePoint)) :
    piece.length + (commaJoined pieces).length ≤ (commaJoined (piece :: pieces)).length := by
  cases pieces with
  | nil => exact Nat.le_refl _
  | cons next others =>
      have hjoined : commaJoined (piece :: next :: others)
          = piece ++ [.char ',', .char ' '] ++ commaJoined (next :: others) := rfl
      rw [hjoined, List.length_append, List.length_append]
      omega

/-- A name is read as the value that it is. -/
theorem value?_name (fuel : Nat) {name : Text} (hname : isName name = true) {rest : List CodePoint}
    (hrest : Stops continuesToken rest) :
    value? (fuel + 1) (name.toList ++ rest) = some (.ofName name, rest) := by
  rw [value?, next?_name hname (stops_isNameChar hrest)]

/-- The text of a number is read as the value of the number. The cases are those of the writer: a
whole number, another finite one, and one that is not finite. -/
theorem value?_numberText (fuel : Nat) (number : Binary64) {rest : List CodePoint}
    (hrest : Stops continuesToken rest) :
    value? (fuel + 1) ((Literal.numberText number).map .char ++ rest)
      = some ((Literal.float number).term, rest) := by
  rw [Literal.numberText, Literal.term]
  split
  · rename_i hfinite
    cases number.integer? with
    | some n =>
        show value? (fuel + 1) ((integerText n).map .char ++ rest) = some (.int n, rest)
        rw [value?, next?_integerText n hrest]
    | none =>
        show value? (fuel + 1) (number.text.map .char ++ rest) = some (.float number, rest)
        rw [value?, next?_doubleText hfinite hrest]
  · exact value?_name fuel (by decide : isName "null" = true) hrest

mutual

/-- The text of a literal is read as its value, whatever follows it. By induction on the literal,
together with the items of lists and the fields of objects; the fuel stays above the length of what
is left. -/
theorem value?_write : ∀ (x : Literal) {fuel : Nat} {rest : List CodePoint}, x.isReadable = true →
    x.write.length < fuel → Stops continuesToken rest →
    value? fuel (x.write ++ rest) = some (x.term, rest)
  | _, 0, _, _, hfuel, _ => absurd hfuel (Nat.not_lt_zero _)
  | .null, fuel + 1, rest, _, _, hrest =>
      value?_name fuel (by decide : isName "null" = true) hrest
  | .text content, fuel + 1, rest, _, _, hrest => by
      rw [Literal.write, value?, next?_jsonQuoted content hrest, Literal.term]
  | .dimension d, fuel + 1, rest, _, _, hrest => by
      rw [Literal.write, ← Text.toList_ofString, value?, next?_jsonQuoted d.text hrest,
        Literal.term]
  | .int number, fuel + 1, rest, _, _, hrest => by
      rw [Literal.write, value?, next?_integerText number hrest, Literal.term]
  | .float number, fuel + 1, rest, _, _, hrest => value?_numberText fuel number hrest
  | .numericFlag true, fuel + 1, rest, _, _, hrest =>
      value?_name fuel (by decide : isName "True" = true) hrest
  | .numericFlag false, fuel + 1, rest, _, _, hrest =>
      value?_name fuel (by decide : isName "False" = true) hrest
  | .bool true, fuel + 1, rest, _, _, hrest =>
      value?_name fuel (by decide : isName "true" = true) hrest
  | .bool false, fuel + 1, rest, _, _, hrest =>
      value?_name fuel (by decide : isName "false" = true) hrest
  -- A list and an object are a mark, the joined pieces and a mark; the readers of pieces do the
  -- rest.
  | .list items, fuel + 1, rest, hreadable, hfuel, hrest => by
      have htext : (Literal.list items).write ++ rest
          = .char '[' :: (commaJoined (Literal.writeItems items) ++ .char ']' :: rest) := by
        rw [Literal.write, Literal.listText]
        simp
      have hlength : (commaJoined (Literal.writeItems items)).length + 1 < fuel := by
        rw [Literal.write, Literal.listText, List.length_cons, List.length_append] at hfuel
        simp only [List.length_singleton] at hfuel
        omega
      rw [htext, value?, next?_mark (by decide), Literal.term]
      show (items? fuel _).map _ = _
      rw [items?_write items hreadable hlength]
      rfl
  -- The empty object has no blank inside, so its closing brace stands where a field would.
  | .object [], fuel + 1, rest, _, hfuel, _ => by
      have hlength : (commaJoined (Literal.writeFields [])).length + 1 < fuel :=
        Nat.lt_of_succ_lt_succ hfuel
      have hfields : entries? fuel '\x7d' (.char '\x7d' :: rest) = some ([], rest) :=
        entries?_write [] rfl hlength (after?_mark (by decide) rest) (stops_cons (by decide) rest)
      show value? (fuel + 1) (.char '\x7b' :: .char '\x7d' :: rest) = some (.object [], rest)
      rw [value?, next?_mark (by decide)]
      show (entries? fuel '\x7d' (.char '\x7d' :: rest)).map _ = _
      rw [hfields]
      rfl
  | .object (field :: fields), fuel + 1, rest, hreadable, hfuel, _ => by
      let pieces := commaJoined (Literal.writeFields (field :: fields))
      have htext : (Literal.object (field :: fields)).write ++ rest
          = .char '\x7b' :: .char ' ' :: (pieces ++ .char ' ' :: .char '\x7d' :: rest) := by
        show .char '\x7b' :: .char ' ' :: (pieces ++ [.char ' ', .char '\x7d']) ++ rest = _
        simp
      have hlength : pieces.length + 1 < fuel := by
        have hwritten : (Literal.object (field :: fields)).write.length
            = (pieces ++ [CodePoint.char ' ', .char '\x7d']).length + 2 := rfl
        rw [hwritten, List.length_append] at hfuel
        simp only [List.length_cons] at hfuel
        omega
      have hclose : after? '\x7d' (.char ' ' :: .char '\x7d' :: rest) = some rest :=
        (after?_congr (next?_space _) _).trans (after?_mark (by decide) rest)
      have hfields : entries? fuel '\x7d'
          (.char ' ' :: (pieces ++ .char ' ' :: .char '\x7d' :: rest))
          = some (Literal.fieldTerms (field :: fields), rest) :=
        (entries?_congr (next?_space _) fuel _).trans <|
          entries?_write (field :: fields) hreadable hlength hclose (stops_cons (by decide) _)
      rw [htext, value?, next?_mark (by decide), Literal.term]
      show (entries? fuel '\x7d'
        (.char ' ' :: (pieces ++ .char ' ' :: .char '\x7d' :: rest))).map _ = _
      rw [hfields]
      rfl
  | .foreign _, _, _, hreadable, _, _ => absurd hreadable Bool.false_ne_true

/-- The texts of the items of a list are read as their values, up to the bracket. The bracket is in
the text, so that the reader knows where to stop. -/
theorem items?_write : ∀ (xs : List Literal) {fuel : Nat} {rest : List CodePoint},
    Literal.areReadable xs = true → (commaJoined (Literal.writeItems xs)).length + 1 < fuel →
    items? fuel (commaJoined (Literal.writeItems xs) ++ .char ']' :: rest)
      = some (Literal.terms xs, rest)
  | [], fuel + 1, rest, _, _ => by
      exact items?_nil fuel (after?_mark (by decide) rest)
  | x :: xs, fuel + 1, rest, hreadable, hfuel => by
      rw [Literal.areReadable, Bool.and_eq_true] at hreadable
      obtain ⟨hx, hxs⟩ := hreadable
      -- What follows the item is a separator or the bracket, and both lead to the same next token.
      obtain ⟨tail, htext, hnext, hstops⟩ :=
        commaJoined_cons_append x.write (Literal.writeItems xs) (.char ']' :: rest)
      -- The text of an item is not empty, since it is read as something.
      have hpositive : 0 < x.write.length := by
        refine List.length_pos_iff.mpr fun hnil => ?_
        have hread := value?_write x hx (Nat.lt_succ_self x.write.length) Stops.nil
        rw [hnil] at hread
        cases hread
      have hlength : x.write.length < fuel ∧
          (commaJoined (Literal.writeItems xs)).length + 1 < fuel := by
        have hjoined := length_commaJoined_cons x.write (Literal.writeItems xs)
        rw [Literal.writeItems] at hfuel
        omega
      have hvalue : value? fuel (x.write ++ tail) = some (x.term, tail) :=
        value?_write x hx hlength.1 (hstops (stops_cons (by decide) _))
      rw [Literal.writeItems, htext]
      refine items?_cons hvalue ?_
      rw [items?_congr hnext]
      exact items?_write xs hxs hlength.2
  | _, 0, _, _, hfuel => absurd hfuel (Nat.not_lt_zero _)

/-- The texts of the fields of an object are read as names with values. What closes the fields is a
parameter, since arguments are closed by a parenthesis and objects by a brace. -/
theorem entries?_write : ∀ (fields : List (Text × Literal)) {fuel : Nat} {close : Char}
    {text rest : List CodePoint}, Literal.areFieldsReadable fields = true →
    (commaJoined (Literal.writeFields fields)).length + 1 < fuel →
    after? close text = some rest → Stops continuesToken text →
    entries? fuel close (commaJoined (Literal.writeFields fields) ++ text)
      = some (Literal.fieldTerms fields, rest)
  | [], fuel + 1, close, text, rest, _, _, hclose, _ => by
      exact entries?_nil fuel hclose
  | (name, x) :: fields, fuel + 1, close, text, rest, hreadable, hfuel, hclose, htext => by
      rw [Literal.areFieldsReadable, Bool.and_eq_true, Bool.and_eq_true] at hreadable
      obtain ⟨⟨hname, hx⟩, hfields⟩ := hreadable
      -- As for the items of a list, with a name and a colon in front of the value.
      obtain ⟨tail, hsplit, hnext, hstops⟩ :=
        commaJoined_cons_append (name.toList ++ .char ':' :: .char ' ' :: x.write)
          (Literal.writeFields fields) text
      have hlength : x.write.length < fuel ∧
          (commaJoined (Literal.writeFields fields)).length + 1 < fuel := by
        have hjoined := length_commaJoined_cons (name.toList ++ .char ':' :: .char ' ' :: x.write)
          (Literal.writeFields fields)
        rw [Literal.writeFields] at hfuel
        rw [List.length_append, List.length_cons, List.length_cons] at hjoined
        omega
      have hvalue : value? fuel (x.write ++ tail) = some (x.term, tail) :=
        value?_write x hx hlength.1 (hstops htext)
      have hnamed : name? (name.toList ++ (.char ':' :: .char ' ' :: x.write ++ tail))
          = some (name, .char ':' :: .char ' ' :: x.write ++ tail) :=
        name?_append hname (Stops.cons rfl _)
      have hcolon : after? ':' (.char ':' :: .char ' ' :: x.write ++ tail)
          = some (.char ' ' :: x.write ++ tail) :=
        after?_mark (by decide) _
      rw [Literal.writeFields, hsplit, List.append_assoc]
      refine entries?_cons hnamed hcolon ((value?_congr (next?_space _) fuel).trans hvalue) ?_
      rw [entries?_congr hnext]
      exact entries?_write fields hfields hlength.2 hclose htext
  | _, 0, _, _, _, _, hfuel, _, _ => absurd hfuel (Nat.not_lt_zero _)

end

/-- **A written literal is read back.** The text of a readable literal is read as its value, and
nothing is left over. -/
theorem readValue?_write {x : Literal} (h : x.isReadable = true) :
    readValue? x.write = some x.term := by
  have hread : value? (x.write.length + 1) (x.write ++ []) = some (x.term, []) :=
    value?_write x h (Nat.lt_succ_self _) Stops.nil
  -- Nothing follows the literal, so nothing is left over.
  rw [List.append_nil] at hread
  rw [readValue?, hread]
  rfl

end Grammar

end FacetSearch
