import FacetSearch.Proofs.Json.Reader

/-!
# `FacetSearch.Proofs.Json.Depth`: texts that are nested too deep

The reader of JSON takes brackets that stand in one another up to `depthLimit`. A text with no more
opening brackets than that in all is never too deep (`read_ne_tooDeep`), and a body that starts with
more of them is too deep, whatever follows them (`decode_brackets`).

For the first the reader must not meet a bracket twice. What a part of it leaves is the end of what
it was given (the lemmas `.._suffix`), so a bracket that it opens is not among those that follow.
`Counted` says this of a part of the reader; it holds of parts that follow one another when it holds
of each (`Counted.bind`), and so of the whole reader (`counted_read`), by induction on its steps.
-/

set_option autoImplicit false

namespace FacetSearch.Json

/-! ### What is left of a text -/

/-- What follows a word is the end of the text. -/
theorem afterWord?_suffix {word : List Char} {text rest : List CodePoint}
    (h : afterWord? word text = some rest) : rest <:+ text := by
  induction word generalizing text with
  | nil =>
      cases h
      exact List.suffix_rfl
  | cons w word ih =>
      cases text with
      | nil => cases h
      | cons point others =>
          rw [afterWord?] at h
          split at h
          · exact (ih h).trans (List.suffix_cons point others)
          · cases h

/-- What follows four digits is the end of the text. -/
theorem readUnit?_suffix {text rest : List CodePoint} {unit : Nat}
    (h : readUnit? text = some (unit, rest)) : rest <:+ text := by
  unfold readUnit? at h
  -- Only four digits in front are read, and so four code points are left out.
  split at h
  · simp only [bind, Option.bind_eq_some_iff] at h
    obtain ⟨a, -, b, -, c, -, d, -, heq⟩ := h
    cases heq
    exact ⟨[_, _, _, _], rfl⟩
  · cases h

/-- What follows an escaped code point is the end of the text, whether or not a low surrogate was
taken along. -/
theorem readEscapedPoint_suffix (unit : Nat) (rest : List CodePoint) :
    (readEscapedPoint unit rest).2 <:+ rest := by
  unfold readEscapedPoint
  split
  · split
    · rename_i low after hread
      split
      · exact (readUnit?_suffix hread).trans ⟨[_, _], rfl⟩
      · exact List.suffix_rfl
    · exact List.suffix_rfl
  · exact List.suffix_rfl

/-- What follows a string is the end of the text. By induction on the steps of the reader, one case
for each kind of code point in a string. -/
theorem readString?_suffix {fuel : Nat} {text points after : List CodePoint}
    (h : readString? fuel text = some (points, after)) : after <:+ text := by
  induction fuel, text using readString?.induct generalizing points after with
  | case1 => cases h
  | case2 => cases h
  | case3 fuel rest =>
      cases h
      exact List.suffix_cons _ _
  | case4 fuel rest ih =>
      simp only [readString?, bind, Option.bind_eq_some_iff] at h
      obtain ⟨⟨unit, escaped⟩, hunit, ⟨others, left⟩, hothers, heq⟩ := h
      cases heq
      -- A low surrogate may have been taken along with the unit.
      calc left <:+ (readEscapedPoint unit escaped).2 := ih _ hothers
        _ <:+ escaped := readEscapedPoint_suffix unit escaped
        _ <:+ rest := readUnit?_suffix hunit
        _ <:+ _ := ⟨[_, _], rfl⟩
  | case5 fuel e rest hne ih =>
      rw [readString?] at h
      · simp only [bind, Option.bind_eq_some_iff] at h
        obtain ⟨c, -, ⟨others, left⟩, hothers, heq⟩ := h
        cases heq
        exact (ih hothers).trans ⟨[_, _], rfl⟩
      · exact hne
  | case6 fuel point rest hquote hunit hescape hbad ih =>
      rw [readString?, if_pos hbad] at h
      · cases h
      all_goals assumption
  | case7 fuel point rest hquote hunit hescape hplain ih =>
      rw [readString?, if_neg hplain] at h
      · simp only [bind, Option.bind_eq_some_iff] at h
        obtain ⟨⟨others, left⟩, hothers, heq⟩ := h
        cases heq
        exact (ih hothers).trans (List.suffix_cons _ _)
      all_goals assumption

/-- What follows digits is the end of the text. -/
theorem readDigits_suffix (text : List CodePoint) : (readDigits text).2 <:+ text := by
  induction text using readDigits.induct with
  | case1 c rest hdigit digits after hread ih =>
      rw [readDigits, if_pos hdigit]
      exact ih.trans (List.suffix_cons _ _)
  | case2 c rest hdigit => rw [readDigits, if_neg hdigit]
  | case3 text hne =>
      rw [readDigits]
      exact hne

/-- What follows a sign is the end of the text. -/
theorem readSign_suffix (text : List CodePoint) : (readSign text).2 <:+ text := by
  unfold readSign
  split
  · exact List.suffix_cons _ _
  · exact List.suffix_cons _ _
  · exact List.suffix_rfl

/-- What follows the whole part of a number is the end of the text. -/
theorem readWhole?_suffix {text after : List CodePoint} {digits : List Char}
    (h : readWhole? text = some (digits, after)) : after <:+ text := by
  unfold readWhole? at h
  split at h
  · cases h
    exact List.suffix_cons _ _
  · dsimp only at h
    split at h
    · cases h
    · cases h
      exact readDigits_suffix text

/-- What follows a fraction is the end of the text. -/
theorem readFraction_suffix (text : List CodePoint) : (readFraction text).2 <:+ text := by
  unfold readFraction
  split
  · rename_i rest
    dsimp only
    split
    · exact List.suffix_rfl
    · exact (readDigits_suffix rest).trans (List.suffix_cons _ _)
  · exact List.suffix_rfl

/-- What follows an exponent is the end of the text. -/
theorem readExponent_suffix (text : List CodePoint) : (readExponent text).2 <:+ text := by
  unfold readExponent
  split
  · rename_i mark rest
    split
    · dsimp only
      split
      · exact ((readDigits_suffix _).trans (readSign_suffix rest)).trans (List.suffix_cons _ _)
      · exact List.suffix_rfl
    · exact List.suffix_rfl
  · exact List.suffix_rfl

/-- What follows a number is the end of the text: its parts are read one after the other, and each
leaves an end. -/
theorem readNumber?_suffix {negative : Bool} {text after : List CodePoint} {value : Value}
    (h : readNumber? negative text = some (value, after)) : after <:+ text := by
  simp only [readNumber?, bind, Option.bind_eq_some_iff] at h
  obtain ⟨⟨whole, rest⟩, hwhole, h⟩ := h
  have hrest : (readExponent (readFraction rest).2).2 <:+ text :=
    calc (readExponent (readFraction rest).2).2 <:+ (readFraction rest).2 := readExponent_suffix _
      _ <:+ rest := readFraction_suffix rest
      _ <:+ text := readWhole?_suffix hwhole
  split at h
  · split at h
    · cases h
    · cases h
      exact hrest
  · cases h
    exact hrest

/-- What follows a name is the end of the text. -/
theorem readName?_suffix {text after : List CodePoint} {value : Value}
    (h : readName? text = some (value, after)) : after <:+ text := by
  obtain ⟨⟨name, other⟩, -, hword⟩ := List.exists_of_findSome?_eq_some h
  obtain ⟨rest, hrest, heq⟩ := Option.map_eq_some_iff.mp hword
  cases heq
  exact afterWord?_suffix hrest

/-! ### Brackets -/

/-- Whether a code point is an opening bracket. -/
def opensBracket (point : CodePoint) : Bool := point == .char '[' || point == .char '\x7b'

/-- How many opening brackets stand in a text, in strings too. Those in strings do no harm: the
bound is only less sharp. -/
def openings (text : List CodePoint) : Nat := text.countP opensBracket

/-- The end of a text has no more opening brackets than the text. -/
theorem openings_le_of_suffix {text whole : List CodePoint} (h : text <:+ whole) :
    openings text ≤ openings whole := h.sublist.countP_le

/-- What a part of the reader leaves is the end of its text, and when it finds brackets that are too
deep there are more of them than it may still open. -/
def Counted {α : Type} (depth : Nat) (text : List CodePoint) :
    Except Fault (α × List CodePoint) → Prop
  | .ok (_, after) => after <:+ text
  | .error .tooDeep => depth < openings text
  | .error .malformed => True

namespace Counted

variable {α β : Type} {depth : Nat} {text : List CodePoint}

/-- What holds of the end of a text holds of the text: an end has no more brackets. -/
theorem of_suffix {whole : List CodePoint} {result : Except Fault (α × List CodePoint)}
    (h : Counted depth text result) (hsuffix : text <:+ whole) : Counted depth whole result := by
  match result with
  | .ok (_, _) => exact List.IsSuffix.trans h hsuffix
  | .error .tooDeep => exact Nat.lt_of_lt_of_le h (openings_le_of_suffix hsuffix)
  | .error .malformed => trivial

/-- A bracket is too deep when none may be opened. -/
theorem tooDeep {point : CodePoint} (hpoint : opensBracket point = true) (hdepth : depth = 0) :
    Counted depth (point :: text) (.error .tooDeep : Except Fault (α × List CodePoint)) := by
  have hopen : openings (point :: text) = openings text + 1 := List.countP_cons_of_pos hpoint
  show depth < openings (point :: text)
  omega

/-- A bracket in front of a text leaves one less to be opened behind it. This is the step in which
the depth and the count go down together. -/
theorem cons_of_opensBracket {point : CodePoint} (hpoint : opensBracket point = true)
    {result : Except Fault (α × List CodePoint)}
    (h : Counted (depth - 1) text result) : Counted depth (point :: text) result := by
  match result with
  | .ok (_, _) => exact List.IsSuffix.trans h (List.suffix_cons _ _)
  | .error .tooDeep =>
      have hopen : openings (point :: text) = openings text + 1 := List.countP_cons_of_pos hpoint
      have hinner : depth - 1 < openings text := h
      show depth < openings (point :: text)
      omega
  | .error .malformed => trivial

/-- Parts that follow one another. The second part reads what the first has left, which is the end
of the text. -/
theorem bind {result : Except Fault (α × List CodePoint)} (h : Counted depth text result)
    {next : α × List CodePoint → Except Fault (β × List CodePoint)}
    (hnext : ∀ found after, after <:+ text → Counted depth text (next (found, after))) :
    Counted depth text (result >>= next) := by
  match result with
  | .ok (found, after) => exact hnext found after h
  | .error .tooDeep => exact h
  | .error .malformed => trivial

/-- A part that knows no depth: it can only fail as malformed. -/
theorem orMalformed {result : Option (α × List CodePoint)}
    (h : ∀ found after, result = some (found, after) → after <:+ text) :
    Counted depth text (orMalformed result) := by
  match result with
  | some (found, after) => exact h found after rfl
  | none => trivial

end Counted

/-- What stands behind blanks is the end of the text. -/
theorem skipSpace_suffix (text : List CodePoint) : skipSpace text <:+ text :=
  List.dropWhile_suffix isSpace

/-- What stands behind a code point that follows blanks is the end of the text. -/
theorem suffix_of_skipSpace {text rest : List CodePoint} {point : CodePoint}
    (h : skipSpace text = point :: rest) : rest <:+ text :=
  (List.suffix_cons point rest).trans (h ▸ skipSpace_suffix text)

section

variable {depth fuel : Nat}

/-- Items count the brackets of their text when each of them does. -/
theorem counted_readItems_succ
    (hvalue : ∀ text, Counted depth text (readValue depth fuel text))
    (hitems : ∀ text, Counted depth text (readItems depth fuel text)) (text : List CodePoint) :
    Counted depth text (readItems depth (fuel + 1) text) := by
  rw [readItems]
  refine (hvalue text).bind fun item after hafter => ?_
  dsimp only
  -- Behind an item there is a comma and more items, the closing bracket, or neither.
  split
  · rename_i rest hcomma
    have hrest : skipSpace rest <:+ text :=
      (skipSpace_suffix rest).trans ((suffix_of_skipSpace hcomma).trans hafter)
    exact ((hitems (skipSpace rest)).of_suffix hrest).bind fun items left hleft => hleft
  · rename_i rest hbracket
    exact (suffix_of_skipSpace hbracket).trans hafter
  · trivial

/-- Entries count the brackets of their text when each of their values does. Keys are strings, which
open nothing. -/
theorem counted_readEntries_succ
    (hvalue : ∀ text, Counted depth text (readValue depth fuel text))
    (hentries : ∀ text, Counted depth text (readEntries depth fuel text))
    (text : List CodePoint) : Counted depth text (readEntries depth (fuel + 1) text) := by
  rw [readEntries.eq_def]
  dsimp only
  split
  · rename_i rest
    refine (Counted.orMalformed fun key after hkey =>
      (readString?_suffix hkey).trans (List.suffix_cons _ _)).bind fun key after hafter => ?_
    dsimp only
    split
    -- Behind the key there is a colon with a value, and then a comma, the brace, or neither.
    · rename_i behind hcolon
      have hbehind : skipSpace behind <:+ .char '"' :: rest :=
        (skipSpace_suffix behind).trans ((suffix_of_skipSpace hcolon).trans hafter)
      refine ((hvalue (skipSpace behind)).of_suffix hbehind).bind fun value left hleft => ?_
      dsimp only
      split
      · rename_i next hcomma
        have hnext : skipSpace next <:+ .char '"' :: rest :=
          (skipSpace_suffix next).trans ((suffix_of_skipSpace hcomma).trans hleft)
        exact ((hentries (skipSpace next)).of_suffix hnext).bind fun entries last hlast => hlast
      · rename_i last hbrace
        exact (suffix_of_skipSpace hbrace).trans hleft
      · trivial
    · trivial
  · trivial

/-- A value counts the brackets of its text when what stands in brackets does, one less deep. -/
theorem counted_readValue_succ
    (hitems : ∀ text, Counted (depth - 1) text (readItems (depth - 1) fuel text))
    (hentries : ∀ text, Counted (depth - 1) text (readEntries (depth - 1) fuel text))
    (text : List CodePoint) : Counted depth text (readValue depth (fuel + 1) text) := by
  cases text with
  | nil => trivial
  | cons first rest =>
      rw [readValue]
      -- The first code point tells a string, a list, an object, a name and a number apart.
      split
      · refine (Counted.orMalformed fun content after hcontent =>
          (readString?_suffix hcontent).trans (List.suffix_cons _ _)).bind
            fun content after hafter => hafter
      split
      · rename_i hbracket
        subst hbracket
        split
        · rename_i hdepth
          exact Counted.tooDeep rfl hdepth
        split
        · rename_i after hclosed
          exact (suffix_of_skipSpace hclosed).trans (List.suffix_cons _ _)
        · refine Counted.cons_of_opensBracket rfl ?_
          exact ((hitems _).of_suffix (skipSpace_suffix rest)).bind fun items after hafter => hafter
      split
      · rename_i hbrace
        subst hbrace
        split
        · rename_i hdepth
          exact Counted.tooDeep rfl hdepth
        split
        · rename_i after hclosed
          exact (suffix_of_skipSpace hclosed).trans (List.suffix_cons _ _)
        · refine Counted.cons_of_opensBracket rfl ?_
          exact ((hentries _).of_suffix (skipSpace_suffix rest)).bind fun _ after hafter => hafter
      split
      · rename_i result hname
        exact readName?_suffix hname
      · refine Counted.orMalformed fun value after hnumber => ?_
        split at hnumber
        · exact (readNumber?_suffix hnumber).trans (List.suffix_cons _ _)
        · exact readNumber?_suffix hnumber

end

/-- The reader counts the brackets of its text. By induction on the fuel, for values, items and
entries at once, at every depth. -/
theorem counted_read (fuel : Nat) :
    (∀ depth text, Counted depth text (readValue depth fuel text)) ∧
      (∀ depth text, Counted depth text (readItems depth fuel text)) ∧
      ∀ depth text, Counted depth text (readEntries depth fuel text) := by
  induction fuel with
  | zero => exact ⟨fun _ _ => trivial, fun _ _ => trivial, fun _ _ => trivial⟩
  | succ fuel ih =>
      obtain ⟨hvalue, hitems, hentries⟩ := ih
      exact ⟨fun depth => counted_readValue_succ (hitems _) (hentries _),
        fun depth => counted_readItems_succ (hvalue depth) (hitems depth),
        fun depth => counted_readEntries_succ (hvalue depth) (hentries depth)⟩

/-- **A text with few brackets is never too deep.** It has no more opening brackets than may stand
in one another. -/
theorem read_ne_tooDeep {text : List CodePoint} (h : openings text ≤ depthLimit) :
    read text ≠ .error .tooDeep := by
  have hcounted := (counted_read (2 * text.length + 2)).1 depthLimit (skipSpace text)
  have hfew := openings_le_of_suffix (skipSpace_suffix text)
  intro hread
  rw [read] at hread
  cases hvalue : readValue depthLimit (2 * text.length + 2) (skipSpace text) with
  | error fault =>
      rw [hvalue] at hread hcounted
      cases hread
      -- The first value met more brackets than there are.
      have hmany : depthLimit < openings (skipSpace text) := hcounted
      omega
  | ok result =>
      rw [hvalue] at hread
      change (if (skipSpace result.2).isEmpty then (.ok result.1 : Except Fault Value)
        else .error .malformed) = .error .tooDeep at hread
      split at hread <;> cases hread

/-- A body with few brackets is never too deep, whatever its code points were told from. -/
theorem orMalformed_bind_read_ne {points? : Option (List CodePoint)}
    (h : ∀ points ∈ points?, openings points ≤ depthLimit) :
    (orMalformed points?).bind read ≠ .error .tooDeep := by
  cases points? with
  | none => exact fun hread => by cases hread
  | some points => exact read_ne_tooDeep (h points rfl)

/-! ### Bodies that are too deep -/

/-- Brackets that open one more than may stand in one another are too deep, whatever follows. -/
theorem readValue_brackets (depth fuel : Nat) (h : 2 * depth < fuel) (rest : List CodePoint) :
    readValue depth fuel (List.replicate (depth + 1) (.char '[') ++ rest) = .error .tooDeep := by
  induction depth generalizing fuel with
  | zero =>
      obtain ⟨fuel, rfl⟩ : ∃ spare, fuel = spare + 1 := ⟨fuel - 1, by omega⟩
      rfl
  | succ depth ih =>
      -- A bracket takes two steps of the reader, one for the value and one for its items.
      obtain ⟨fuel, rfl⟩ : ∃ spare, fuel = spare + 2 := ⟨fuel - 2, by omega⟩
      have hinner := ih fuel (by omega)
      simp only [List.replicate_succ, List.cons_append] at hinner ⊢
      have hitems : readItems depth (fuel + 1)
          (.char '[' :: (List.replicate depth (.char '[') ++ rest)) = .error .tooDeep := by
        rw [readItems, hinner]
        rfl
      rw [readValue, if_neg (by decide), if_pos rfl, if_neg (by omega), skipSpace_cons (by decide)]
      -- What follows the first bracket is another one, so it is not the closing one.
      split
      · rename_i after heq
        cases heq
      · rw [Nat.add_sub_cancel, hitems]
        rfl

/-- A body that starts with more opening brackets than may stand in one another is too deep. -/
theorem decode_brackets {count : Nat} (h : depthLimit < count) (rest : List Char) :
    decode (String.ofList (List.replicate count '[' ++ rest)) = .error .tooDeep := by
  have hlimit : 1 ≤ depthLimit := by decide
  obtain ⟨others, rfl⟩ : ∃ others, count = others + 2 := ⟨count - 2, by omega⟩
  have hpoints : bodyPoints? (String.ofList (List.replicate (others + 2) '[' ++ rest))
      = some ((List.replicate (others + 2) '[' ++ rest).map .char) :=
    bodyPoints?_ofList (by decide) (by decide) (List.replicate others '[' ++ rest)
  have hskip : skipSpace ((List.replicate (others + 2) '[' ++ rest).map .char)
      = (List.replicate (others + 2) '[' ++ rest).map .char :=
    skipSpace_cons (by decide) ((List.replicate (others + 1) '[' ++ rest).map .char)
  -- The brackets past those that are too many belong to what follows.
  obtain ⟨extra, hextra⟩ := Nat.exists_eq_add_of_lt h
  have hsplit : (List.replicate (others + 2) '[' ++ rest).map CodePoint.char
      = List.replicate (depthLimit + 1) (.char '[')
        ++ (List.replicate extra '[' ++ rest).map .char := by
    rw [hextra, Nat.add_right_comm, List.replicate_add, List.append_assoc, List.map_append,
      List.map_replicate]
  have hvalue := readValue_brackets depthLimit
    (2 * ((List.replicate (others + 2) '[' ++ rest).map CodePoint.char).length + 2)
    (by simp; omega) ((List.replicate extra '[' ++ rest).map .char)
  rw [← hsplit] at hvalue
  rw [decode, hpoints]
  show read _ = _
  rw [read, hskip, hvalue]
  rfl

end FacetSearch.Json
