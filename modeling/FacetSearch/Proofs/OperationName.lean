import FacetSearch.OperationName
import FacetSearch.Proofs.Grammar.Token

/-!
# `FacetSearch.Proofs.OperationName`: where a name is found

The search looks at every place of a document in turn. A place announces a name when a keyword, a
blank or several, and a name stand there, the name as long as it can be (`Announces`). The place
looked at gives just the name that it announces (`nameHere?_eq_some_iff`), and nothing is found
exactly when no place of the document announces a name (`find?_eq_none_iff`).

No word character is a blank, so where a document starts with a keyword, a blank, a name and another
blank, the name is found (`ofText?_heading`), whatever stands after it.
-/

set_option autoImplicit false

namespace FacetSearch

open Grammar

/-! ### Classes of characters -/

/-- The code points of the blanks. -/
def blankCodes : List Nat :=
  [9, 10, 11, 12, 13, 28, 29, 30, 31, 32, 133, 160, 5760, 8192, 8193, 8194, 8195, 8196, 8197, 8198,
    8199, 8200, 8201, 8202, 8232, 8233, 8239, 8287, 12288]

/-- The boundaries of white space and the separators leave these code points. The tables give
ranges, so a blank is one of finitely many. -/
theorem mem_blankCodes {c : Char} (h : isBlank c = true) : c.toNat ∈ blankCodes := by
  rw [isBlank, isWhiteSpace, Bool.or_eq_true] at h
  simp only [flippedAt, whiteSpaceBoundaries, Bool.and_eq_true, Bool.not_eq_true',
    Bool.and_eq_false_iff, decide_eq_true_eq, decide_eq_false_iff_not, Bool.not_eq_false',
    Bool.not_false, Bool.true_eq_false, or_false] at h
  simp only [blankCodes, List.mem_cons, List.not_mem_nil, or_false]
  omega

/-- No word character is a blank, so a name ends where blanks start. -/
theorem isBlank_of_isWord {c : CodePoint} (h : c.isWord = true) : c.isBlank = false := by
  have hcodes : ∀ n ∈ blankCodes, flippedAt wordBoundaries n = false := by decide +kernel
  cases c with
  | surrogate => rfl
  | char c =>
      refine Bool.eq_false_iff.mpr fun hblank => ?_
      have hword : flippedAt wordBoundaries c.toNat = true := h
      rw [hcodes _ (mem_blankCodes hblank)] at hword
      cases hword

/-- What holds of the first 128 characters holds of each of them. -/
theorem forall_ascii {P : CodePoint → Prop} (h : ∀ n < 128, P (.char (Char.ofNat n)))
    {c : CodePoint} (hc : c.toNat < 128) : P c := by
  cases c with
  | char c =>
      have hcode := h c.toNat hc
      rwa [Char.ofNat_toNat] at hcode
  | surrogate offset =>
      rw [CodePoint.toNat] at hc
      omega

/-- The code points of names are ASCII characters, while word characters need not be. -/
theorem toNat_lt_of_isNameChar {c : CodePoint} (h : isNameChar c = true) : c.toNat < 128 := by
  cases c with
  | surrogate => cases h
  | char c =>
      have hbelow : ∀ {d : Char}, c.val ≤ d.val → d.toNat < 128 → c.toNat < 128 := by
        intro d hle hd
        exact Nat.lt_of_le_of_lt (UInt32.le_iff_toNat_le.mp hle) hd
      show c.toNat < 128
      rw [isNameChar, isNameStart, Bool.or_eq_true, Bool.or_eq_true] at h
      -- A letter of either case, the underscore, or a digit.
      rcases h with (hletter | hscore) | hdigit
      · rcases (Bool.or_eq_true c.isUpper c.isLower).mp hletter with hupper | hlower
        · exact hbelow (show c.val ≤ 'Z'.val from (of_decide_eq_true hupper).2) (by decide)
        · have hupTo := ((Bool.and_eq_true _ _).mp hlower).2
          exact hbelow (show c.val ≤ 'z'.val from of_decide_eq_true hupTo) (by decide)
      · rw [CodePoint.char.inj (beq_iff_eq.mp hscore)]
        decide
      · exact Nat.lt_of_le_of_lt (Char.isDigit_iff_toNat.mp hdigit).2 (by decide)

/-- The code points of names are word characters. -/
theorem isWord_of_isNameChar {c : CodePoint} (h : isNameChar c = true) : c.isWord = true :=
  forall_ascii (P := fun c => isNameChar c = true → c.isWord = true) (by decide)
    (toNat_lt_of_isNameChar h) h

/-- No blank is a code point of names, since all of those are word characters. -/
theorem isNameChar_of_isBlank {c : CodePoint} (h : c.isBlank = true) : isNameChar c = false := by
  refine Bool.eq_false_iff.mpr fun hname => ?_
  rw [isBlank_of_isWord (isWord_of_isNameChar hname)] at h
  cases h

namespace OperationName

/-! ### One place -/

/-- A word stands at the start of a text exactly when the text is the word and the rest. By
induction on the word. -/
theorem after?_eq_some_iff {word : List Char} {text rest : List CodePoint} :
    after? word text = some rest ↔ text = word.map .char ++ rest := by
  induction word generalizing text with
  | nil => rw [after?, Option.some.injEq, List.map_nil, List.nil_append]
  | cons w word ih =>
      cases text with
      | nil => exact iff_of_false nofun nofun
      | cons c text =>
          rw [after?, List.map_cons, List.cons_append, List.cons.injEq]
          -- The first characters are compared, and when they are equal the rest of the word
          -- decides.
          split
          · rename_i heq
            rw [ih, heq, eq_self, true_and]
          · rename_i hne
            exact iff_of_false nofun fun h => hne h.1

/-- A text of one class of characters, and not the empty one. The search takes two such runs behind
a keyword. -/
def IsRun (p : CodePoint → Bool) (text : List CodePoint) : Prop := text ≠ [] ∧ text.all p = true

/-- A text of one class stops the classes that have no character of it. -/
theorem IsRun.stops {p q : CodePoint → Bool} {text : List CodePoint} (h : IsRun p text)
    (hapart : ∀ c, p c = true → q c = false) (rest : List CodePoint) : Stops q (text ++ rest) := by
  obtain ⟨hne, hall⟩ := h
  cases text with
  | nil => exact absurd rfl hne
  | cons c others => exact Stops.cons (hapart c ((Bool.and_eq_true _ _).mp hall).1) _

/-- A name is a text of word characters, and not the empty one. -/
theorem isRun_of_isName {name : Text} (h : isName name = true) :
    IsRun CodePoint.isWord name.toList := by
  obtain ⟨first, others, htext, -⟩ := exists_of_isName h
  refine ⟨htext ▸ List.cons_ne_nil first others, List.all_eq_true.mpr fun c hc => ?_⟩
  exact isWord_of_isNameChar (List.all_eq_true.mp (all_of_isName h) c hc)

/-- The name behind blanks is the longest one there. The reader takes all blanks and then all word
characters, and asks for one of each. -/
theorem nameAfterBlanks?_eq_some_iff {text name : List CodePoint} :
    nameAfterBlanks? text = some name ↔
      ∃ blanks rest, text = blanks ++ (name ++ rest) ∧ IsRun CodePoint.isBlank blanks ∧
        IsRun CodePoint.isWord name ∧ Stops CodePoint.isWord rest := by
  constructor
  · intro h
    rw [nameAfterBlanks?] at h
    simp only [Option.ite_none_left_eq_some, Bool.or_eq_true, List.isEmpty_iff, not_or,
      Option.some.injEq] at h
    obtain ⟨⟨hblanks, hname⟩, rfl⟩ := h
    -- The two runs are what the reader takes, and what is left starts with no word character.
    refine ⟨text.takeWhile CodePoint.isBlank,
      (text.dropWhile CodePoint.isBlank).dropWhile CodePoint.isWord, ?_,
      ⟨hblanks, List.all_takeWhile⟩, ⟨hname, List.all_takeWhile⟩, stops_dropWhile _⟩
    rw [List.takeWhile_append_dropWhile, List.takeWhile_append_dropWhile]
  · rintro ⟨blanks, rest, rfl, ⟨hne, hblanks⟩, hname, hrest⟩
    -- A word character is no blank, so the run of blanks ends where the name starts.
    have hstop := hname.stops (fun _ => isBlank_of_isWord) rest
    rw [nameAfterBlanks?, dropWhile_append_of_stops hblanks hstop,
      takeWhile_append_of_stops hblanks hstop, takeWhile_append_of_stops hname.2 hrest,
      List.isEmpty_eq_false_iff.mpr hne, List.isEmpty_eq_false_iff.mpr hname.1]
    rfl

/-- A text starts with a keyword, blanks and a name, which goes as far as its word characters.
Nothing is asked of what stands before the keyword. -/
def Announces (text name : List CodePoint) : Prop :=
  ∃ keyword ∈ keywords, ∃ blanks rest,
    text = keyword.toList.map .char ++ (blanks ++ (name ++ rest)) ∧
    IsRun CodePoint.isBlank blanks ∧ IsRun CodePoint.isWord name ∧ Stops CodePoint.isWord rest

/-- A place gives the name that it announces, and no other name can be announced there. -/
theorem nameHere?_eq_some_iff {text name : List CodePoint} :
    nameHere? text = some name ↔ Announces text name := by
  constructor
  · intro h
    obtain ⟨keyword, hkeyword, hname⟩ := List.exists_of_findSome?_eq_some h
    obtain ⟨rest, hafter, hname⟩ := Option.bind_eq_some_iff.mp hname
    obtain ⟨blanks, others, rfl, hparts⟩ := nameAfterBlanks?_eq_some_iff.mp hname
    exact ⟨keyword, hkeyword, blanks, others, after?_eq_some_iff.mp hafter, hparts⟩
  · rintro ⟨keyword, hkeyword, blanks, rest, rfl, hparts⟩
    have hname := nameAfterBlanks?_eq_some_iff.mpr ⟨blanks, rest, rfl, hparts⟩
    have hafter := after?_eq_some_iff.mpr
      (rfl : keyword.toList.map .char ++ (blanks ++ (name ++ rest)) = _)
    rw [nameHere?]
    -- The keywords differ in their first letters, so no other one stands there.
    simp only [keywords, List.mem_cons, List.not_mem_nil, or_false] at hkeyword
    rcases hkeyword with rfl | rfl | rfl
    · rw [keywords, List.findSome?_cons, hafter, Option.bind_some, hname]
    all_goals
      simp only [keywords, List.findSome?_cons, hafter, Option.bind_some, hname]
      rfl

/-! ### The whole document -/

/-- Keywords are made of characters of names. -/
theorem all_of_mem_keywords {keyword : String} (h : keyword ∈ keywords) :
    (keyword : Text).toList.all isNameChar = true := by
  have hkeywords : ∀ keyword ∈ keywords, (keyword : Text).toList.all isNameChar = true := by decide
  exact hkeywords keyword h

/-- What announces a name starts with a character of names: the first of its keyword. -/
theorem Announces.exists_first {text name : List CodePoint} (h : Announces text name) :
    ∃ c rest, text = c :: rest ∧ isNameChar c = true := by
  obtain ⟨keyword, hkeyword, blanks, rest, rfl, -⟩ := h
  have hkeywords : ∀ keyword ∈ keywords, (keyword : Text).toList ≠ [] := by decide
  obtain ⟨c, others, htext⟩ := List.exists_cons_of_ne_nil (hkeywords keyword hkeyword)
  have hall := all_of_mem_keywords hkeyword
  rw [htext] at hall
  exact ⟨c, _, by rw [← Text.toList_ofString, htext]; rfl, ((Bool.and_eq_true _ _).mp hall).1⟩

/-- Some place of a text announces a name. A document can mention one without naming its operation
so. -/
def Mentions (text : List CodePoint) : Prop := ∃ rest name, rest <:+ text ∧ Announces rest name

/-- A keyword, blanks and a word character mention a name, wherever they stand. The name goes as far
as there are word characters. -/
theorem mentions_of_suffix {keyword : String} {text blanks rest : List CodePoint} {c : CodePoint}
    (h : keyword.toList.map .char ++ (blanks ++ c :: rest) <:+ text) (hkeyword : keyword ∈ keywords)
    (hblanks : IsRun CodePoint.isBlank blanks) (hc : CodePoint.isWord c = true) :
    Mentions text := by
  refine ⟨_, c :: rest.takeWhile CodePoint.isWord, h, keyword, hkeyword, blanks,
    rest.dropWhile CodePoint.isWord, ?_,
    hblanks, ⟨List.cons_ne_nil _ _, ?_⟩, stops_dropWhile rest⟩
  · rw [List.cons_append, List.takeWhile_append_dropWhile]
  · rw [List.all_cons, hc, List.all_takeWhile]
    rfl

/-- Nothing is found exactly when no place announces a name. By induction on the text, one place
after the other. -/
theorem find?_eq_none_iff {text : List CodePoint} : find? text = none ↔ ¬ Mentions text := by
  induction text with
  | nil =>
      refine iff_of_true rfl ?_
      rintro ⟨rest, name, hsuffix, hannounces⟩
      obtain ⟨c, others, rfl, -⟩ := hannounces.exists_first
      cases List.suffix_nil.mp hsuffix
  | cons c text ih =>
      rw [find?]
      split
      · rename_i name hname
        have hannounces := nameHere?_eq_some_iff.mp hname
        exact iff_of_false nofun
          (not_not_intro ⟨c :: text, name, List.suffix_rfl, hannounces⟩)
      · rename_i hnone
        -- The front announces nothing, so every mention is one of the rest.
        rw [ih, not_iff_not]
        constructor
        · rintro ⟨rest, name, hsuffix, hannounces⟩
          exact ⟨rest, name, hsuffix.trans (List.suffix_cons c text), hannounces⟩
        · rintro ⟨rest, name, hsuffix, hannounces⟩
          rcases List.suffix_cons_iff.mp hsuffix with rfl | hsuffix
          · rw [nameHere?_eq_some_iff.mpr hannounces] at hnone
            cases hnone
          · exact ⟨rest, name, hsuffix, hannounces⟩

/-- The search decides whether a text mentions a name. -/
instance (text : List CodePoint) : Decidable (Mentions text) :=
  decidable_of_iff (find? text ≠ none) (by rw [ne_eq, find?_eq_none_iff, not_not])

/-- What is announced at the start of a text is found, before anything that stands further on. -/
theorem find?_of_announces {text name : List CodePoint} (h : Announces text name) :
    find? text = some name := by
  obtain ⟨c, rest, rfl, -⟩ := h.exists_first
  rw [find?, nameHere?_eq_some_iff.mpr h]

/-- Places that announce nothing are passed over, and the search goes on behind them. -/
theorem find?_append {text rest : List CodePoint}
    (h : ∀ part, part <:+ text → part ≠ [] → ∀ name, ¬ Announces (part ++ rest) name) :
    find? (text ++ rest) = find? rest := by
  induction text with
  | nil => rfl
  | cons c text ih =>
      -- The whole text is one of its parts, and the parts of the rest are the others.
      have hhere : nameHere? (c :: (text ++ rest)) = none := by
        refine Option.eq_none_iff_forall_ne_some.mpr fun name hname => ?_
        exact h (c :: text) List.suffix_rfl (List.cons_ne_nil _ _) name
          (nameHere?_eq_some_iff.mp hname)
      rw [List.cons_append, find?, hhere]
      exact ih fun part hpart => h part (hpart.trans (List.suffix_cons c text))

/-- The name in the heading of a document is found, whatever stands after it. The heading comes
first, and the first name is the one. -/
theorem ofText?_heading {name : Text} (hname : isName name = true) {document : Text}
    {rest : List CodePoint}
    (h : document.toList = ("query " : Text).toList ++ name.toList ++ .char ' ' :: rest) :
    ofText? document = some name := by
  have hannounces : Announces document.toList name.toList :=
    ⟨"query", by decide, [.char ' '], .char ' ' :: rest, by rw [h, List.append_assoc]; rfl,
      ⟨List.cons_ne_nil _ _, rfl⟩, isRun_of_isName hname, Stops.cons rfl rest⟩
  rw [ofText?, find?_of_announces hannounces, Option.map_some]

end OperationName

end FacetSearch
