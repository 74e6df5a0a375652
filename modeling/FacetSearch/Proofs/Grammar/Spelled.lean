import FacetSearch.Proofs.OperationName

/-!
# `FacetSearch.Proofs.Grammar.Spelled`: documents as they are spelled

A document is a sequence of pieces, which are tokens and comments, with ignored characters between
them. `Spells` relates a text to its pieces, each with the rest of the text behind it, so that no
piece could be longer. Unlike the reader of tokens it has the whole lexical grammar: numbers in
every spelling, strings with every escape, and block strings.

The first character tells what kind of piece a text starts with (`Piece.exists_first`). From this,
pieces can be taken off a spelled text: ignored characters by `Spells.of_append`, and a name by
`Spells.exists_name`.
-/

set_option autoImplicit false

namespace FacetSearch.Grammar

/-- A token or a comment of a document. Numbers, strings and comments keep their spelling, since
other readers may look at the characters and not at what they mean. -/
inductive Piece where
  | mark (c : Char)
  | spread
  | name (text : Text)
  | number (text : List CodePoint)
  | string (text : List CodePoint)
  | comment (text : List CodePoint)

/-! ### Numbers -/

/-- Digits, at least one. -/
def IsDigits (text : List CodePoint) : Prop := text ≠ [] ∧ text.all isDigit = true

/-- A point and digits, or nothing. -/
inductive IsFraction : List CodePoint → Prop
  | none : IsFraction []
  | digits {digits : List CodePoint} : IsDigits digits → IsFraction (.char '.' :: digits)

/-- The mark of an exponent, a sign or none, and digits, or nothing. The mark may be of either
case. -/
inductive IsExponent : List CodePoint → Prop
  | none : IsExponent []
  | digits {mark : CodePoint} {sign digits : List CodePoint} : mark ∈ [.char 'e', .char 'E'] →
      sign ∈ [[], [.char '+'], [.char '-']] → IsDigits digits →
      IsExponent (mark :: (sign ++ digits))

/-- The spelling of a number: a minus or none, digits of which a zero is the first only when it is
the only one, a fraction and an exponent. -/
inductive IsNumber : List CodePoint → Prop
  | mk {sign whole fraction exponent : List CodePoint} : sign ∈ [[], [.char '-']] →
      IsDigits whole → (whole.head? = some (.char '0') → whole = [.char '0']) →
      IsFraction fraction → IsExponent exponent →
      IsNumber (sign ++ (whole ++ (fraction ++ exponent)))

/-! ### Strings -/

/-- The spelling of a string from after its opening quote on, up to its closing one. What may stand
behind a backslash is listed here, and no line ends inside. -/
inductive IsStringRest : List CodePoint → Prop
  | close : IsStringRest [.char '"']
  | plain {c : CodePoint} {rest : List CodePoint} :
      c ∉ [.char '"', .char '\\', .char '\n', .char '\r'] → IsStringRest rest →
      IsStringRest (c :: rest)
  | short {e : Char} {rest : List CodePoint} : e ∈ ['"', '\\', '/', 'b', 'f', 'n', 'r', 't'] →
      IsStringRest rest → IsStringRest (.char '\\' :: .char e :: rest)
  | unit {digits : List Char} {rest : List CodePoint} : digits.length = 4 →
      (∀ c ∈ digits, (hexValue? c).isSome) → IsStringRest rest →
      IsStringRest (.char '\\' :: .char 'u' :: (digits.map .char ++ rest))
  | braced {digits : List Char} {rest : List CodePoint} : digits ≠ [] →
      (∀ c ∈ digits, (hexValue? c).isSome) → IsStringRest rest →
      IsStringRest (.char '\\' :: .char 'u' :: .char '\x7b' ::
        (digits.map .char ++ .char '\x7d' :: rest))

/-- Three quotes, which open and close a block string. -/
def blockQuotes : List CodePoint := [.char '"', .char '"', .char '"']

/-- The spelling of a block string from after its opening quotes on. Only three quotes in a row
close it, and a backslash before them keeps them from it. -/
inductive IsBlockRest : List CodePoint → Prop
  | close : IsBlockRest blockQuotes
  | escaped {rest : List CodePoint} : IsBlockRest rest →
      IsBlockRest (.char '\\' :: (blockQuotes ++ rest))
  | plain {c : CodePoint} {rest : List CodePoint} : ¬ blockQuotes <+: c :: rest →
      ¬ .char '\\' :: blockQuotes <+: c :: rest → IsBlockRest rest → IsBlockRest (c :: rest)

/-- The spelling of a string, of one line or as a block. Two quotes alone are the empty string, and
a third one behind them would open a block. -/
inductive IsString : List CodePoint → Prop
  | line {rest : List CodePoint} : IsStringRest rest → IsString (.char '"' :: rest)
  | block {rest : List CodePoint} : IsBlockRest rest → IsString (blockQuotes ++ rest)

/-! ### Pieces -/

namespace Piece

/-- The text of a piece, which is what stands for it in a document. -/
def text : Piece → List CodePoint
  | mark c => [.char c]
  | spread => [.char '.', .char '.', .char '.']
  | name text => text.toList
  | number text => text
  | string text => text
  | comment text => text

/-- Whether a piece is spelled by the rules of its kind. A piece can be built from any text, so this
is asked for apart. -/
def IsProper : Piece → Prop
  | mark c => c ∈ marks
  | spread => True
  | name text => isName text = true
  | number text => IsNumber text
  | string text => IsString text
  | comment text => ∃ body, text = .char '#' :: body ∧ ∀ c ∈ body, isLineEnd c = false

/-- Whether a piece can end before a text: no longer piece of its kind starts the same way.
Documents are cut into the longest pieces. -/
def EndsBefore : Piece → List CodePoint → Prop
  | name _, rest => Stops isNameChar rest
  | number _, rest => endsNumber rest = true
  | string text, rest => text = [.char '"', .char '"'] → Stops (· == .char '"') rest
  | comment _, rest => Stops (fun c => !isLineEnd c) rest
  | _, _ => True

/-- Whether a piece is a token. Comments are none and mean nothing. -/
def isToken : Piece → Bool
  | comment _ => false
  | _ => true

/-- Whether a piece of this kind can start with a character, whatever comes after. -/
def opens : Piece → CodePoint → Bool
  | mark d, c => c == .char d
  | spread, c => c == .char '.'
  | name _, c => isNameStart c
  | number _, c => isDigit c || c == .char '-'
  | string _, c => c == .char '"'
  | comment _, c => c == .char '#'

end Piece

/-- The pieces of a text, one after the other, with ignored characters between them. The text is
used up at the end. -/
inductive Spells : List CodePoint → List Piece → Prop
  | done : Spells [] []
  | ignored {c : CodePoint} {rest : List CodePoint} {pieces : List Piece} : isIgnored c = true →
      Spells rest pieces → Spells (c :: rest) pieces
  | piece {x : Piece} {rest : List CodePoint} {pieces : List Piece} : x.IsProper →
      x.EndsBefore rest → Spells rest pieces → Spells (x.text ++ rest) (x :: pieces)

/-- The tokens among pieces, which are all that an operation is told by. -/
def tokens (pieces : List Piece) : List Piece := pieces.filter Piece.isToken

/-! ### The first character -/

/-- Digits start with a digit, so a number can be told by its first character. -/
theorem IsDigits.exists_first {digits : List CodePoint} (h : IsDigits digits) :
    ∃ c rest, digits = c :: rest ∧ isDigit c = true := by
  obtain ⟨hne, hall⟩ := h
  cases digits with
  | nil => exact absurd rfl hne
  | cons c rest => exact ⟨c, rest, rfl, (Bool.and_eq_true _ _).mp hall |>.1⟩

/-- The first character of a piece tells its kind. A piece is never empty, so taking one off a text
makes the text shorter. -/
theorem Piece.exists_first {x : Piece} (h : x.IsProper) :
    ∃ c rest, x.text = c :: rest ∧ x.opens c = true := by
  cases x with
  | mark c => exact ⟨.char c, [], rfl, beq_self_eq_true (CodePoint.char c)⟩
  | spread => exact ⟨.char '.', [.char '.', .char '.'], rfl, rfl⟩
  | name text =>
      obtain ⟨first, rest, htext, hfirst, -⟩ := exists_of_isName h
      exact ⟨first, rest, htext, hfirst⟩
  | number text =>
      cases h with
      | @mk sign whole fraction exponent hsign hwhole =>
          obtain ⟨c, rest, rfl, hc⟩ := hwhole.exists_first
          simp only [List.mem_cons, List.not_mem_nil, or_false] at hsign
          -- A number starts with its minus, or else with the first of its digits.
          rcases hsign with rfl | rfl
          · exact ⟨c, _, rfl, by rw [opens, hc, Bool.true_or]⟩
          · exact ⟨.char '-', _, rfl, rfl⟩
  | string text =>
      cases h with
      | line => exact ⟨.char '"', _, rfl, rfl⟩
      | block => exact ⟨.char '"', _, rfl, rfl⟩
  | comment text =>
      obtain ⟨body, rfl, -⟩ := h
      exact ⟨.char '#', body, rfl, rfl⟩

/-- Whether a piece of some kind can start with a character. What cannot start one is passed over or
refused. -/
def opensPiece (c : CodePoint) : Bool :=
  isNameChar c || decide (c ∈ ('-' :: '.' :: '"' :: '#' :: marks).map .char)

/-- The characters that pieces start with are ASCII characters, so facts about them can be checked
one by one. -/
theorem toNat_lt_of_opensPiece {c : CodePoint} (h : opensPiece c = true) : c.toNat < 128 := by
  have hothers : (('-' :: '.' :: '"' :: '#' :: marks).map CodePoint.char).all (·.toNat < 128)
      = true := by decide
  rcases (Bool.or_eq_true _ _).mp h with hname | hother
  · exact toNat_lt_of_isNameChar hname
  · exact of_decide_eq_true (List.all_eq_true.mp hothers c (of_decide_eq_true hother))

/-- A character that a piece starts with is not ignored and no blank, and it is a word character
only as a character of names. -/
theorem isIgnored_of_opensPiece {c : CodePoint} (h : opensPiece c = true) :
    isIgnored c = false ∧ c.isBlank = false ∧ c.isWord = isNameChar c :=
  -- Checked for each of the 128 characters.
  forall_ascii (P := fun c => opensPiece c = true →
    isIgnored c = false ∧ c.isBlank = false ∧ c.isWord = isNameChar c) (by decide +kernel)
    (toNat_lt_of_opensPiece h) h

/-- A word character is not ignored, so a search for a word cannot begin between two pieces. -/
theorem isIgnored_of_isWord {c : CodePoint} (h : c.isWord = true) : isIgnored c = false := by
  refine Bool.eq_false_iff.mpr fun hignored => ?_
  simp only [isIgnored, Bool.or_eq_true, beq_iff_eq] at hignored
  rcases hignored with ((((rfl | rfl) | rfl) | rfl) | rfl) | rfl
  all_goals exact absurd h (by decide +kernel)

/-- Whether a piece is of a kind that can start with a character of names. A search for a word can
begin at no other. -/
def Piece.startsWord : Piece → Bool
  | name _ => true
  | number _ => true
  | _ => false

/-- The characters that pieces start with, by the kind of the piece: only names and numbers can
start with a character of names. -/
theorem Piece.opensPiece_of_opens {x : Piece} (hx : x.IsProper) {c : CodePoint}
    (h : x.opens c = true) :
    opensPiece c = true ∧ (isNameChar c = true → x.startsWord = true) := by
  -- There are only a few marks, so this much is computed.
  have hmarks : marks.all (fun d => opensPiece (.char d) && !isNameChar (.char d)) = true := by
    decide
  cases x with
  | mark d =>
      have hmark := List.all_eq_true.mp hmarks d hx
      rw [Bool.and_eq_true, Bool.not_eq_true'] at hmark
      obtain ⟨hopens, hname⟩ := hmark
      rw [beq_iff_eq.mp h, hname]
      exact ⟨hopens, fun hfalse => absurd hfalse Bool.false_ne_true⟩
  | name text =>
      refine ⟨?_, fun _ => rfl⟩
      rw [opensPiece, isNameChar, show isNameStart c = true from h]
      rfl
  | number text =>
      refine ⟨?_, fun _ => rfl⟩
      rcases (Bool.or_eq_true _ _).mp h with hdigit | hminus
      · rw [opensPiece, isNameChar, hdigit, Bool.or_true, Bool.true_or]
      · rw [beq_iff_eq.mp hminus]
        rfl
  | spread =>
      rw [beq_iff_eq.mp (show (c == .char '.') = true from h)]
      exact ⟨rfl, fun hchar => absurd hchar (by decide)⟩
  | string text =>
      rw [beq_iff_eq.mp (show (c == .char '"') = true from h)]
      exact ⟨rfl, fun hchar => absurd hchar (by decide)⟩
  | comment text =>
      rw [beq_iff_eq.mp (show (c == .char '#') = true from h)]
      exact ⟨rfl, fun hchar => absurd hchar (by decide)⟩

/-! ### The last character -/

/-- A string ends with a quote, whether it is of one line or a block. By induction on its spelling,
one case for each kind of escape. -/
theorem IsString.getLast? {text : List CodePoint} (h : IsString text) :
    text.getLast? = some (.char '"') := by
  -- Each step puts characters in front, which leaves the last one as it is.
  have hline : ∀ {rest}, IsStringRest rest → rest.getLast? = some (.char '"') := by
    intro rest hrest
    induction hrest with
    | close => rfl
    | plain _ _ ih => rw [List.getLast?_cons, ih]; rfl
    | short _ _ ih => rw [List.getLast?_cons, List.getLast?_cons, ih]; rfl
    | unit _ _ _ ih =>
        rw [List.getLast?_cons, List.getLast?_cons, List.getLast?_append, ih]; rfl
    | braced _ _ _ ih =>
        rw [List.getLast?_cons, List.getLast?_cons, List.getLast?_cons, List.getLast?_append,
          List.getLast?_cons, ih]
        rfl
  have hblock : ∀ {rest}, IsBlockRest rest → rest.getLast? = some (.char '"') := by
    intro rest hrest
    induction hrest with
    | close => rfl
    | escaped _ ih => rw [List.getLast?_cons, List.getLast?_append, ih]; rfl
    | plain _ _ _ ih => rw [List.getLast?_cons, ih]; rfl
  cases h with
  | line hrest => rw [List.getLast?_cons, hline hrest]; rfl
  | block hrest => rw [List.getLast?_append, hblock hrest]; rfl

/-- No word runs across the end of a piece: the last character of the piece or the next one is no
character of names. -/
theorem Piece.isNameChar_across {x : Piece} (hx : x.IsProper) {rest : List CodePoint}
    (hends : x.EndsBefore rest) {c d : CodePoint} (hlast : x.text.getLast? = some c)
    (hfirst : rest.head? = some d) : isNameChar c = false ∨ isNameChar d = false := by
  obtain ⟨after, rfl⟩ := List.head?_eq_some_iff.mp hfirst
  cases x with
  | mark m =>
      have hmarks : marks.all (fun m => !isNameChar (.char m)) = true := by decide
      obtain rfl := Option.some.inj hlast
      exact .inl (Bool.not_eq_true' _ ▸ List.all_eq_true.mp hmarks m hx)
  | spread =>
      obtain rfl := Option.some.inj hlast
      exact .inl rfl
  | string text =>
      obtain rfl := Option.some.inj ((IsString.getLast? hx).symm.trans hlast)
      exact .inl rfl
  -- From here on the piece itself may end in a word, and what follows must not go on with it.
  | name text => exact .inr (hends d after rfl)
  | number text =>
      rw [Piece.EndsBefore, endsNumber, Bool.and_eq_true, Bool.not_eq_true'] at hends
      exact .inr hends.1
  | comment text =>
      have hend := hends d after rfl
      rw [Bool.not_eq_false', isLineEnd, Bool.or_eq_true, beq_iff_eq, beq_iff_eq] at hend
      rcases hend with rfl | rfl
      · exact .inr rfl
      · exact .inr rfl

/-- A word that starts inside a piece ends inside it. This is what a search for words in a text
needs in order to speak about one piece at a time. -/
theorem Piece.exists_of_word {x : Piece} (hx : x.IsProper) {rest : List CodePoint}
    (hends : x.EndsBefore rest) {part word after : List CodePoint} (hpart : part <:+ x.text)
    (hne : part ≠ []) (hword : word.all isNameChar = true) (h : part ++ rest = word ++ after) :
    ∃ others, part = word ++ others ∧ after = others ++ rest := by
  rcases List.append_eq_append_iff.mp h with ⟨others, rfl, rfl⟩ | hinside
  · cases others with
    | nil => exact ⟨[], by rw [List.append_nil, List.append_nil], rfl⟩
    | cons d others =>
        -- The word would go on behind the piece, and so run across its end.
        rw [List.all_append, Bool.and_eq_true, List.all_cons, Bool.and_eq_true] at hword
        obtain ⟨before, htext⟩ := hpart
        have hlast : x.text.getLast? = some (part.getLast hne) := by
          rw [← htext, List.getLast?_append, List.getLast?_eq_some_getLast hne]
          rfl
        have hc := List.all_eq_true.mp hword.1 _ (List.getLast_mem hne)
        rcases Piece.isNameChar_across hx hends hlast rfl with hfalse | hfalse
        · rw [hc] at hfalse
          cases hfalse
        · rw [hword.2.1] at hfalse
          cases hfalse
  · exact hinside

/-! ### Taking pieces off -/

namespace Spells

variable {text rest : List CodePoint} {pieces : List Piece}

/-- Ignored characters and blanks are passed over: no piece starts with one of them. -/
theorem of_cons {c : CodePoint} (h : Spells (c :: rest) pieces)
    (hc : isIgnored c = true ∨ c.isBlank = true) : Spells rest pieces := by
  -- The text is named so that the cases of `Spells` can be compared with its first character.
  generalize htext : c :: rest = text at h
  cases h with
  | done => cases htext
  | ignored _ hrest =>
      cases htext
      exact hrest
  | @piece x _ _ hx _ hrest =>
      obtain ⟨first, others, hfirst, hopens⟩ := Piece.exists_first hx
      obtain ⟨hignored, hblank, -⟩ :=
        isIgnored_of_opensPiece (Piece.opensPiece_of_opens hx hopens).1
      rw [hfirst, List.cons_append, List.cons.injEq] at htext
      rw [htext.1, hignored, hblank] at hc
      simp at hc

/-- Ignored characters and blanks are passed over, however many there are. -/
theorem of_append {gap : List CodePoint} (h : Spells (gap ++ rest) pieces)
    (hgap : ∀ c ∈ gap, isIgnored c = true ∨ c.isBlank = true) : Spells rest pieces := by
  induction gap with
  | nil => exact h
  | cons c gap ih =>
      rw [List.forall_mem_cons] at hgap
      exact ih (h.of_cons hgap.1) hgap.2

/-- What starts with no ignored character starts with a piece, which starts with this character. -/
theorem exists_piece {c : CodePoint} (h : Spells (c :: rest) pieces) (hc : isIgnored c = false) :
    ∃ x others after, pieces = x :: others ∧ c :: rest = x.text ++ after ∧ x.IsProper ∧
      x.opens c = true ∧ x.EndsBefore after ∧ Spells after others := by
  -- The text is spelled as nothing, behind an ignored character, or by a piece. The first character
  -- leaves only the last.
  generalize htext : c :: rest = text at h
  cases h with
  | done => cases htext
  | ignored hignored _ =>
      cases htext
      rw [hc] at hignored
      cases hignored
  | piece hx hends hrest =>
      obtain ⟨first, others, hfirst, hopens⟩ := Piece.exists_first hx
      refine ⟨_, _, _, rfl, rfl, hx, ?_, hends, hrest⟩
      rw [hfirst, List.cons_append, List.cons.injEq] at htext
      rw [htext.1]
      exact hopens

/-- A text that starts with a name, as long as it can be, goes on after it with the other pieces. A
piece that starts like a name is a name, and both are as long as they can be. -/
theorem exists_name {name : Text} (h : Spells (name.toList ++ rest) pieces)
    (hname : isName name = true) (hrest : Stops isNameChar rest) :
    ∃ others, pieces = .name name :: others ∧ Spells rest others := by
  obtain ⟨first, chars, htext, hfirst, -⟩ := exists_of_isName hname
  have hchar : isNameChar first = true := by rw [isNameChar, hfirst, Bool.true_or]
  rw [htext, List.cons_append] at h
  obtain ⟨x, others, after, rfl, hsplit, hx, hopens, hends, hafter⟩ :=
    h.exists_piece (isIgnored_of_isWord (isWord_of_isNameChar hchar))
  rw [← List.cons_append, ← htext] at hsplit
  have hword := (Piece.opensPiece_of_opens hx hopens).2 hchar
  -- Names and numbers can start with a character of names, and numbers with none that names start
  -- with.
  cases x with
  | name text =>
      -- Both names are as long as they can be.
      have htaken := takeWhile_append_of_stops (all_of_isName hname) hrest
      rw [hsplit] at htaken
      have htexts : text.toList = name.toList :=
        (takeWhile_append_of_stops (all_of_isName hx) hends).symm.trans htaken
      obtain rfl := Text.toList_inj.mp htexts
      obtain rfl := List.append_cancel_left hsplit
      exact ⟨others, rfl, hafter⟩
  | number text =>
      have hdigit : (isDigit first || first == .char '-') = false :=
        forall_ascii (P := fun c => isNameStart c = true → (isDigit c || c == .char '-') = false)
          (by decide) (toNat_lt_of_isNameChar hchar) hfirst
      rw [show (isDigit first || first == .char '-') = true from hopens] at hdigit
      cases hdigit
  | mark _ => cases hword
  | spread => cases hword
  | string _ => cases hword
  | comment _ => cases hword

/-- Where no name goes on, no word goes on. The words of the search have more characters than names,
but no piece starts with one of the others. -/
theorem stops_isWord (h : Spells text pieces) (htext : Stops isNameChar text) :
    Stops CodePoint.isWord text := by
  rintro c after rfl
  refine Bool.eq_false_iff.mpr fun hword => ?_
  obtain ⟨x, others, -, rfl, -, hx, hopens, -⟩ := h.exists_piece (isIgnored_of_isWord hword)
  obtain ⟨-, -, hsame⟩ := isIgnored_of_opensPiece (Piece.opensPiece_of_opens hx hopens).1
  rw [hsame, htext c after rfl] at hword
  cases hword

end Spells

end FacetSearch.Grammar
