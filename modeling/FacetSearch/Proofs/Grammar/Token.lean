import FacetSearch.Proofs.Number.Layout
import FacetSearch.Proofs.Text.Quoted

/-!
# `FacetSearch.Proofs.Grammar.Token`: the tokens of a query

The text of a query is a sequence of tokens: punctuators, names, numbers and strings. Blanks, line
ends, commas, byte order marks and comments separate them and mean nothing. `next?` reads the next
token and returns what follows it. A token is as long as it can be, and a number must not run into a
name, a digit or a point.

The reader is stricter than the grammar in two places, which no text written here needs: it refuses
block strings and escaped surrogates. A fractional number is the double nearest to it.

The second half says what the writers produce: a whole number, a finite double, a name and a quoted
string are each read back as one token.
-/

set_option autoImplicit false

namespace FacetSearch.Grammar

/-- A token of a query, with what it means: strings without their escapes, and numbers as
numbers. -/
inductive Token where
  | mark (c : Char)
  | spread
  | name (text : Text)
  | int (number : Int)
  | float (number : Binary64)
  | text (content : Text)

/-- The punctuators of one character, which are all but the three points of a spread. -/
def marks : List Char :=
  ['!', '$', '&', '(', ')', ':', '=', '@', '[', ']', '\x7b', '|', '\x7d']

/-- What can stand between tokens: blanks, line ends, commas, and a byte order mark. -/
def isIgnored (c : CodePoint) : Bool :=
  c == .char ' ' || c == .char '\t' || c == .char '\n' || c == .char '\r' || c == .char ',' ||
    c == .char (Char.ofNat 65279)

/-- Whether a code point ends a line. -/
def isLineEnd (c : CodePoint) : Bool := c == .char '\n' || c == .char '\r'

/-- The text from the next token on; the flag tells whether it starts inside a comment, which goes
on to the end of its line. -/
def skipIgnored : Bool → List CodePoint → List CodePoint
  | _, [] => []
  | true, c :: rest => skipIgnored (!isLineEnd c) rest
  | false, c :: rest =>
      if c = .char '#' then skipIgnored true rest
      else if isIgnored c then skipIgnored false rest
      else c :: rest

/-- Whether a number can hold a code point. Only ASCII digits are digits here. -/
def isDigit (c : CodePoint) : Bool := c.satisfies Char.isDigit

/-- Whether a name can start with a code point. -/
def isNameStart (c : CodePoint) : Bool := c.satisfies Char.isAlpha || c == .char '_'

/-- Whether a name can go on with a code point. -/
def isNameChar (c : CodePoint) : Bool := isNameStart c || isDigit c

/-- Whether a text is a name: not empty, and of characters of names with no digit first. -/
def isName (text : Text) : Bool :=
  match text.toList with
  | [] => false
  | first :: rest => isNameStart first && rest.all isNameChar

/-! ### Strings -/

/-- The character of four hexadecimal digits, if they make one. A surrogate is no character, so an
escape for one is refused. -/
def escapedUnit? (a b c d : Char) : Option Char := do
  let a ← hexValue? a
  let b ← hexValue? b
  let c ← hexValue? c
  let d ← hexValue? d
  (CodePoint.ofUnit (((a * 16 + b) * 16 + c) * 16 + d)).char?

/-- The rest of a string after its opening quote, and what follows the closing one. Line ends and
control characters are refused, other code points stand for themselves. -/
def string? : List CodePoint → Option (List CodePoint × List CodePoint)
  | [] => none
  | .char '"' :: rest => some ([], rest)
  | .char '\\' :: .char 'u' :: .char a :: .char b :: .char c :: .char d :: rest => do
      let unit ← escapedUnit? a b c d
      let (content, after) ← string? rest
      return (.char unit :: content, after)
  | .char '\\' :: .char e :: rest => do
      let c ← Json.shortEscape? e
      let (content, after) ← string? rest
      return (.char c :: content, after)
  | c :: rest =>
      if c = .char '\\' ∨ (c.toNat < 32 ∧ c ≠ .char '\t') then none
      else do
        let (content, after) ← string? rest
        return (c :: content, after)

/-! ### Numbers -/

/-- The digits before the point: zero alone, or digits that start with another one. -/
def whole? (text : List CodePoint) : Option (List Char × List CodePoint) :=
  match Json.readDigits text with
  | ([], _) => none
  | ('0' :: _ :: _, _) => none
  | read => some read

/-- The digits after the point. Without a point there are none, and after one there is at least
one. -/
def fraction? : List CodePoint → Option (List Char × List CodePoint)
  | .char '.' :: rest =>
      let (digits, after) := Json.readDigits rest
      if digits.isEmpty then none else some (digits, after)
  | text => some ([], text)

/-- The exponent. Without its mark there is none, and after it there is at least one digit. -/
def exponent? : List CodePoint → Option (Option Int × List CodePoint)
  | [] => some (none, [])
  | c :: rest =>
      if c = .char 'e' ∨ c = .char 'E' then
        let (negative, text) := Json.readSign rest
        let (digits, after) := Json.readDigits text
        (naturalOf? digits).map fun magnitude => (some (signed negative magnitude), after)
      else some (none, c :: rest)

/-- Whether a number can end before a text. The grammar wants a number not to run into a name, a
digit or a point. -/
def endsNumber : List CodePoint → Bool
  | [] => true
  | c :: _ => !isNameChar c && c != .char '.'

/-- The parts of a number without its sign, and what follows. What follows must not go on with a
number or a name. -/
def parts? (text : List CodePoint) : Option (DecimalParts × List CodePoint) := do
  let (whole, rest) ← whole? text
  let (fraction, rest) ← fraction? rest
  let (exponent, rest) ← exponent? rest
  if endsNumber rest then return (⟨whole, fraction, exponent⟩, rest) else none

/-- The token of a number. Without fraction and exponent it is a whole number. -/
def numberToken (negative : Bool) (p : DecimalParts) : Token :=
  if p.isWhole then .int (signed negative p.coefficient)
  else .float (Binary64.ofDecimal negative p.coefficient p.power)

/-! ### Tokens -/

/-- The token at the start of a text, and what follows. The first character tells the kind. -/
def token? : List CodePoint → Option (Token × List CodePoint)
  | [] => none
  | .char '"' :: rest =>
      if rest.take 2 = [.char '"', .char '"'] then none
      else (string? rest).map fun (content, after) => (.text (.ofList content), after)
  | .char '-' :: rest => (parts? rest).map fun (p, after) => (numberToken true p, after)
  | .char '.' :: .char '.' :: .char '.' :: rest => some (.spread, rest)
  | c :: rest =>
      if isNameStart c then
        some (.name (.ofList (c :: rest.takeWhile isNameChar)), rest.dropWhile isNameChar)
      else if isDigit c then (parts? (c :: rest)).map fun (p, after) => (numberToken false p, after)
      else
        match c.char? with
        | some mark => if mark ∈ marks then some (.mark mark, rest) else none
        | none => none

/-- The next token of a text, and what follows. What is ignored and comments are passed over
first. -/
def next? (text : List CodePoint) : Option (Token × List CodePoint) :=
  token? (skipIgnored false text)

/-! ### Reading what stands between tokens -/

/-- What means nothing is passed over. A comment starts with a character that is not among those, so
it is left out here. -/
theorem next?_of_isIgnored {c : CodePoint} (h : isIgnored c = true) (rest : List CodePoint) :
    next? (c :: rest) = next? rest := by
  have hcomment : c ≠ .char '#' := by
    intro heq
    rw [heq] at h
    exact absurd h (by decide)
  rw [next?, next?, skipIgnored, if_neg hcomment, if_pos h]

/-- What can start a token is not passed over, so the token is read from where it starts. -/
theorem next?_cons {c : CodePoint} (h : isIgnored c = false) (hcomment : c ≠ .char '#')
    (rest : List CodePoint) : next? (c :: rest) = token? (c :: rest) := by
  rw [next?, skipIgnored, if_neg hcomment, if_neg (by rw [h]; decide)]

/-- A punctuator is read, and what follows it is left as it is. -/
theorem next?_mark {c : Char} (h : c ∈ marks) (rest : List CodePoint) :
    next? (.char c :: rest) = some (.mark c, rest) := by
  simp only [marks, List.mem_cons, List.not_mem_nil, or_false] at h
  rcases h with rfl | rfl | rfl | rfl | rfl | rfl | rfl | rfl | rfl | rfl | rfl | rfl | rfl <;> rfl

/-! ### Reading names -/

/-- A code point of a class differs from one that is not of it. -/
theorem ne_of_class {p : CodePoint → Bool} {c : CodePoint} (h : p c = true) (d : CodePoint)
    (hd : p d = false) : c ≠ d := by
  rintro rfl
  rw [hd] at h
  cases h

/-- What can start a name is no other beginning of a token, so the reader takes the branch of
names. -/
theorem token?_of_isNameStart {c : CodePoint} (h : isNameStart c = true) (rest : List CodePoint) :
    token? (c :: rest)
      = some (.name (.ofList (c :: rest.takeWhile isNameChar)), rest.dropWhile isNameChar) := by
  rw [token?, if_pos h]
  · exact ne_of_class h _ rfl
  · exact ne_of_class h _ rfl
  · exact fun _ heq _ => ne_of_class h _ rfl heq

/-- Whether a token that came before could go on with a code point, or could with it be part of
another token. -/
def continuesToken (c : CodePoint) : Bool := isNameChar c || c == .char '.' || c == .char '"'

/-- What stops every token stops a name. The facts about names ask for this weaker form. -/
theorem stops_isNameChar {text : List CodePoint} (h : Stops continuesToken text) :
    Stops isNameChar text := by
  intro c after heq
  have hc := h c after heq
  rw [continuesToken, Bool.or_eq_false_iff, Bool.or_eq_false_iff] at hc
  exact hc.1.1

/-- What stops a name stops digits. -/
theorem stops_isDigit {text : List CodePoint} (h : Stops isNameChar text) : Stops isDigit text :=
  fun c after heq => (Bool.or_eq_false_iff.mp (h c after heq)).2

/-- A name starts with what can start one and goes on with what can continue it. So it is not
empty. -/
theorem exists_of_isName {name : Text} (h : isName name = true) :
    ∃ first rest, name.toList = first :: rest ∧ isNameStart first = true ∧
      rest.all isNameChar = true := by
  rw [isName] at h
  split at h
  · cases h
  · rename_i first rest htext
    rw [Bool.and_eq_true] at h
    exact ⟨first, rest, htext, h.1, h.2⟩

/-- Every code point of a name is one of names. -/
theorem all_of_isName {name : Text} (h : isName name = true) :
    name.toList.all isNameChar = true := by
  obtain ⟨first, rest, htext, hfirst, hrest⟩ := exists_of_isName h
  rw [htext, List.all_cons, hrest, isNameChar, hfirst]
  rfl

/-- A name is read up to what cannot continue it, and so as a whole. -/
theorem next?_name {name : Text} (hname : isName name = true) {rest : List CodePoint}
    (hrest : Stops isNameChar rest) :
    next? (name.toList ++ rest) = some (.name name, rest) := by
  obtain ⟨first, others, htext, hfirst, hothers⟩ := exists_of_isName hname
  have hne := ne_of_class hfirst
  -- The first character of a name is neither ignored nor the start of a comment.
  have hignored : isIgnored first = false := by
    simp only [isIgnored, Bool.or_eq_false_iff, beq_eq_false_iff_ne]
    exact ⟨⟨⟨⟨⟨hne _ rfl, hne _ rfl⟩, hne _ rfl⟩, hne _ rfl⟩, hne _ rfl⟩, hne _ rfl⟩
  rw [htext, List.cons_append, next?_cons hignored (hne _ rfl), token?_of_isNameStart hfirst,
    takeWhile_append_of_stops hothers hrest, dropWhile_append_of_stops hothers hrest, ← htext]

/-! ### Reading numbers -/

/-- The digits in front of what is no digit are read. By induction on the digits. -/
theorem readDigits_append {digits : List Char} {rest : List CodePoint}
    (hdigits : digits.all Char.isDigit = true) (hrest : Stops isDigit rest) :
    Json.readDigits (digits.map .char ++ rest) = (digits, rest) := by
  induction digits with
  | nil =>
      cases rest with
      | nil => rfl
      | cons c after =>
          -- What follows is no digit, be it a character or a surrogate, which is none in any case.
          cases c with
          | surrogate => rfl
          | char c =>
              have hc : c.isDigit = false := hrest (.char c) after rfl
              rw [List.map_nil, List.nil_append, Json.readDigits, hc, if_neg (by decide)]
  | cons c others ih =>
      rw [List.all_cons, Bool.and_eq_true] at hdigits
      rw [List.map_cons, List.cons_append, Json.readDigits, if_pos hdigits.1, ih hdigits.2]

/-- The digits before the point are read. The reader refuses a zero in front of other digits, which
a proper number does not have. -/
theorem whole?_append {p : DecimalParts} (h : p.IsProper) {rest : List CodePoint}
    (hrest : Stops isDigit rest) : whole? (p.whole.map .char ++ rest) = some (p.whole, rest) := by
  rw [whole?, readDigits_append h.whole hrest]
  -- The digits are a zero alone, or start with another digit.
  rcases h.leading with hzero | ⟨first, others, hwhole, hfirst⟩
  · rw [hzero]
    rfl
  · rw [hwhole]
    split
    · rename_i heq
      cases heq
    · rename_i heq
      cases heq
      exact absurd rfl hfirst
    · rfl

/-- The digits after the point are read. Without a fraction no point may follow, or else it would be
taken for one. -/
theorem fraction?_append {p : DecimalParts} (h : p.IsProper) {rest : List CodePoint}
    (hrest : Stops isDigit rest) (hpoint : Stops (· == .char '.') rest) :
    fraction? (p.fractionText.map .char ++ rest) = some (p.fraction, rest) := by
  rw [DecimalParts.fractionText]
  -- The text has a point exactly when there are digits to follow it.
  cases hfraction : p.fraction with
  | nil =>
      rw [List.isEmpty_nil, if_pos rfl, List.map_nil, List.nil_append, fraction?]
      intro after heq
      exact absurd (hpoint (.char '.') after heq) (by decide)
  | cons first others =>
      have hdigits : (first :: others).all Char.isDigit = true := hfraction ▸ h.fraction
      rw [List.isEmpty_cons, if_neg (by decide), List.map_cons, List.cons_append, fraction?,
        readDigits_append hdigits hrest]
      rfl

/-- The exponent is read. Without an exponent no mark of one may follow, and what stops a name is
none. -/
theorem exponent?_append (p : DecimalParts) {rest : List CodePoint}
    (hrest : Stops isNameChar rest) :
    exponent? (p.powerText.map .char ++ rest) = some (p.exponent, rest) := by
  rw [DecimalParts.powerText]
  cases p.exponent with
  | none =>
      cases rest with
      | nil => rfl
      | cons c after =>
          -- What stops a name is no mark of an exponent.
          have hmark : ¬ (c = .char 'e' ∨ c = .char 'E') := by
            rintro (rfl | rfl)
            · exact absurd (hrest (.char 'e') after rfl) (by decide)
            · exact absurd (hrest (.char 'E') after rfl) (by decide)
          show exponent? (c :: after) = _
          rw [exponent?, if_neg hmark]
  | some n =>
      obtain ⟨digits, hne, hdigits, hvalue, htext⟩ := Binary64.exponentText_eq n
      have hread := readDigits_append hdigits (stops_isDigit hrest)
      have hnatural : naturalOf? digits = some n.natAbs := by
        rw [naturalOf?_of_isDigit hne hdigits, hvalue]
      -- The sign of the exponent is always written, and its digits are those of the magnitude.
      have hsign (after : List CodePoint) :
          Json.readSign (.char (if n < 0 then '-' else '+') :: after) = (decide (n < 0), after) := by
        by_cases hneg : n < 0
        · rw [if_pos hneg, decide_eq_true hneg]
          rfl
        · rw [if_neg hneg, decide_eq_false hneg]
          rfl
      show exponent? ((Binary64.exponentText n).map .char ++ rest) = _
      rw [htext]
      show exponent? (.char 'e' :: .char (if n < 0 then '-' else '+') ::
        (digits.map .char ++ rest)) = _
      rw [exponent?, if_pos (Or.inl rfl)]
      simp only [hsign, hread, hnatural, signed_natAbs, Option.map_some]

/-- What follows the fraction of a number does not start with a digit: it is the mark of the
exponent, or what follows the number. -/
theorem stops_powerText (p : DecimalParts) {rest : List CodePoint} (hrest : Stops isDigit rest) :
    Stops isDigit (p.powerText.map .char ++ rest) :=
  p.stops_powerText.map_char.append hrest

/-- What follows the digits of a number does not start with a digit. -/
theorem stops_fractionText (p : DecimalParts) {rest : List CodePoint} (hrest : Stops isDigit rest) :
    Stops isDigit (p.fractionText.map .char ++ rest) :=
  p.stops_fractionText.map_char.append hrest

/-- A fraction is recognised by its point, so no point may follow where there is none. -/
theorem stops_point (p : DecimalParts) {rest : List CodePoint} (hrest : Stops continuesToken rest) :
    Stops (· == .char '.') (p.powerText.map .char ++ rest) := by
  refine Stops.append ?_ fun c after heq => ?_
  · rw [DecimalParts.powerText]
    split
    · exact Stops.nil
    · exact Stops.cons rfl _
  · exact (Bool.or_eq_false_iff.mp (Bool.or_eq_false_iff.mp (hrest c after heq)).1).2

/-- The parts of a number are read up to what cannot continue it. The three parts are read one after
the other, each stopped by the start of the next. -/
theorem parts?_append {p : DecimalParts} (h : p.IsProper) {rest : List CodePoint}
    (hrest : Stops continuesToken rest) : parts? (p.text.map .char ++ rest) = some (p, rest) := by
  have hdigit := stops_isDigit (stops_isNameChar hrest)
  -- What follows is no character of names and no point, so the number may end there.
  have hends : endsNumber rest = true := by
    cases rest with
    | nil => rfl
    | cons c after =>
        have hc := hrest c after rfl
        rw [continuesToken, Bool.or_eq_false_iff, Bool.or_eq_false_iff] at hc
        rw [endsNumber, hc.1.1, bne, hc.1.2]
        rfl
  have hpower := stops_powerText p hdigit
  rw [parts?, DecimalParts.text, List.map_append, List.map_append, List.append_assoc,
    List.append_assoc, whole?_append h (stops_fractionText p hpower), Option.bind_eq_bind,
    Option.bind_some]
  show (fraction? (p.fractionText.map .char ++ (p.powerText.map .char ++ rest))).bind _ = _
  rw [fraction?_append h hpower (stops_point p hrest), Option.bind_some]
  show (exponent? (p.powerText.map .char ++ rest)).bind _ = _
  rw [exponent?_append p (stops_isNameChar hrest), Option.bind_some]
  show (if endsNumber rest then some (p, rest) else none) = _
  rw [if_pos hends]

/-- A digit starts a number and no other token. -/
theorem next?_of_isDigit {c : Char} (h : c.isDigit = true) (rest : List CodePoint) :
    next? (.char c :: rest)
      = (parts? (.char c :: rest)).map fun (p, after) => (numberToken false p, after) := by
  have hne := ne_of_class (show isDigit (.char c) = true from h)
  have hignored : isIgnored (.char c) = false := by
    simp only [isIgnored, Bool.or_eq_false_iff, beq_eq_false_iff_ne]
    exact ⟨⟨⟨⟨⟨hne _ rfl, hne _ rfl⟩, hne _ rfl⟩, hne _ rfl⟩, hne _ rfl⟩, hne _ rfl⟩
  have hname : isNameStart (.char c) = false := by
    rw [isNameStart, Bool.or_eq_false_iff]
    refine ⟨?_, beq_eq_false_iff_ne.mpr (hne _ rfl)⟩
    -- The letters lie past the digits.
    have hpast : ∀ d : Char, '9'.toNat < d.toNat → ¬ d.val ≤ c.val := by
      intro d hd hle
      have hbelow : c.toNat ≤ '9'.toNat := (Char.isDigit_iff_toNat.mp h).2
      have habove : d.toNat ≤ c.toNat := UInt32.le_iff_toNat_le.mp hle
      omega
    have hupper : c.isUpper = false :=
      decide_eq_false fun hboth => hpast 'A' (by decide) hboth.1
    have hlower : c.isLower = false :=
      Bool.and_eq_false_iff.mpr (Or.inl (decide_eq_false (hpast 'a' (by decide))))
    exact Bool.or_eq_false_iff.mpr ⟨hupper, hlower⟩
  rw [next?_cons hignored (hne _ rfl), token?, if_neg (by rw [hname]; decide),
    if_pos (show isDigit (.char c) = true from h)]
  · exact hne _ rfl
  · exact hne _ rfl
  · exact fun _ heq _ => hne _ rfl heq

/-- A number is read, with the sign that stands in front of it. -/
theorem next?_number (negative : Bool) {p : DecimalParts} (h : p.IsProper) {rest : List CodePoint}
    (hrest : Stops continuesToken rest) :
    next? (((if negative then ['-'] else []) ++ p.text).map .char ++ rest)
      = some (numberToken negative p, rest) := by
  have hparts : parts? (p.text.map .char ++ rest) = some (p, rest) := parts?_append h hrest
  -- With a minus the reader goes by it, and without one by the first digit of the number.
  cases negative with
  | true =>
      show (parts? (p.text.map .char ++ rest)).map _ = _
      rw [hparts]
      rfl
  | false =>
      show next? (p.text.map .char ++ rest) = _
      cases hwhole : p.whole with
      | nil => exact absurd hwhole h.whole_ne_nil
      | cons c others =>
          have hdigits := h.whole
          rw [hwhole, List.all_cons, Bool.and_eq_true] at hdigits
          rw [DecimalParts.text, hwhole, List.cons_append, List.map_cons, List.cons_append]
            at hparts ⊢
          rw [next?_of_isDigit hdigits.1, hparts]
          rfl

/-- A whole number is read, as long as it may be: its digits are those of a number without fraction
and exponent. -/
theorem next?_integerText (n : Int) {rest : List CodePoint} (hrest : Stops continuesToken rest) :
    next? ((integerText n).map .char ++ rest) = some (.int n, rest) := by
  have hread := next?_number (decide (n < 0)) (DecimalParts.isProper_ofNat n.natAbs) hrest
  have htoken : numberToken (decide (n < 0)) (.ofNat n.natAbs) = .int n := by
    rw [numberToken, if_pos (show (DecimalParts.ofNat n.natAbs).isWhole = true from rfl),
      DecimalParts.coefficient_ofNat, signed_natAbs]
  rw [htoken] at hread
  rw [integerText_eq]
  exact hread

/-- A finite double is read from its text. The text is short, but there is only one double nearest
to it. -/
theorem next?_doubleText {x : Binary64} (h : x.isFinite = true) {rest : List CodePoint}
    (hrest : Stops continuesToken rest) :
    next? (x.text.map .char ++ rest) = some (.float x, rest) := by
  cases x with
  | infinite _ => exact absurd h Bool.false_ne_true
  | nan => exact absurd h Bool.false_ne_true
  | finite negative significand exponent hcanonical =>
      rw [Binary64.text_finite,
        next?_number negative (Binary64.isProper_magnitudeParts hcanonical) hrest, numberToken,
        Binary64.isWhole_magnitudeParts hcanonical,
        Binary64.ofDecimal_magnitudeParts negative hcanonical]
      rfl

/-! ### Reading strings -/

/-- A code point past the control characters that is neither the quote nor the backslash stands for
itself. This includes every lone surrogate. -/
theorem string?_plain {c : CodePoint} (hquote : c ≠ .char '"') (hslash : c ≠ .char '\\')
    (hcontrol : ¬ c.toNat < 32) (rest : List CodePoint) :
    string? (c :: rest) = (string? rest).map fun (content, after) => (c :: content, after) := by
  -- The reader refuses two kinds of code points and takes two more apart. None of these is meant
  -- here.
  have hplain : ¬ (c = .char '\\' ∨ (c.toNat < 32 ∧ c ≠ .char '\t')) := by
    rintro (heq | ⟨hlow, -⟩)
    · exact hslash heq
    · exact hcontrol hlow
  rw [string?, if_neg hplain]
  · cases string? rest with
    | none => rfl
    | some read => rfl
  · exact hquote
  · exact fun _ _ _ _ _ heq _ => hslash heq
  · exact fun _ _ heq _ => hslash heq

/-- An escaped control character is read back from its four digits. -/
theorem escapedUnit?_hexDigits {n : Nat} (h : n < 32) :
    ∃ a b c d, hexDigits 4 n = [a, b, c, d] ∧ escapedUnit? a b c d = some (Char.ofNat n) := by
  refine ⟨_, _, _, _, rfl, ?_⟩
  revert n
  decide

/-- A written code point is read back, and the rest of the string after it. -/
theorem string?_jsonPoint (point : CodePoint) (rest : List CodePoint) :
    string? (jsonPoint point ++ rest)
      = (string? rest).map fun (content, after) => (point :: content, after) := by
  cases point with
  | surrogate offset =>
      exact string?_plain (fun heq => by cases heq) (fun heq => by cases heq)
        (by rw [CodePoint.toNat]; omega) rest
  | char c =>
      rw [jsonPoint]
      -- The writer has a short escape, the escape of a unit, or the character itself.
      rcases jsonEscape_cases c with ⟨letter, hletter, htext⟩ | ⟨hcontrol, htext⟩ |
        ⟨hquote, hslash, hcontrol, htext⟩
      · -- No short escape is that of a unit, so the two are not taken for each other.
        have hunit : letter ≠ 'u' := by
          rintro rfl
          cases hletter
        rw [htext]
        show string? (.char '\\' :: .char letter :: rest) = _
        rw [string?]
        · rw [hletter]
          cases string? rest with
          | none => rfl
          | some read => rfl
        · exact fun _ _ _ _ _ _ => hunit
      · obtain ⟨a, b, d, e, hdigits, hunit⟩ := escapedUnit?_hexDigits hcontrol
        rw [htext, unitEscape, hdigits]
        show string? (.char '\\' :: .char 'u' :: .char a :: .char b :: .char d :: .char e :: rest)
          = _
        rw [string?, hunit, Char.ofNat_toNat]
        cases string? rest with
        | none => rfl
        | some read => rfl
      · rw [htext]
        exact string?_plain (fun heq => hquote (CodePoint.char.inj heq))
          (fun heq => hslash (CodePoint.char.inj heq)) hcontrol rest

/-- The code points of a string are read back up to the closing quote. By induction on the content,
one code point at a time. -/
theorem string?_flatMap (content rest : List CodePoint) :
    string? (content.flatMap jsonPoint ++ .char '"' :: rest) = some (content, rest) := by
  induction content with
  | nil => rfl
  | cons c others ih =>
      rw [List.flatMap_cons, List.append_assoc, string?_jsonPoint, ih]
      rfl

/-- A quoted string is read back. What follows must not be a quote, since three of them would open
a string of another kind. -/
theorem next?_jsonQuoted (content : Text) {rest : List CodePoint}
    (hrest : Stops continuesToken rest) :
    next? (jsonQuoted content.toList ++ rest) = some (.text content, rest) := by
  let body := content.toList.flatMap jsonPoint ++ [.char '"'] ++ rest
  have hread : string? body = some (content.toList, rest) := by
    show string? (content.toList.flatMap jsonPoint ++ [.char '"'] ++ rest) = _
    rw [List.append_assoc]
    exact string?_flatMap content.toList rest
  have hopening : body.take 2 ≠ [.char '"', .char '"'] := by
    intro htake
    -- Two quotes more would close an empty string and leave a quote behind it.
    have hbody : body = .char '"' :: .char '"' :: body.drop 2 := by
      have hsplit := List.take_append_drop 2 body
      rw [htake] at hsplit
      exact hsplit.symm
    rw [hbody, string?, Option.some.injEq, Prod.mk.injEq] at hread
    exact absurd (hrest (.char '"') _ hread.2.symm) (by decide)
  show next? (.char '"' :: body) = _
  rw [next?_cons rfl (by decide), token?, if_neg hopening, hread, Option.map_some]

end FacetSearch.Grammar
