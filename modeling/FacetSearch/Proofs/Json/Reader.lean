import FacetSearch.Proofs.Entries
import FacetSearch.Proofs.Grammar.Written
import FacetSearch.Proofs.Json.Written
import FacetSearch.Proofs.Text.Encoding

/-!
# `FacetSearch.Proofs.Json.Reader`: written values are read back

The reader of JSON takes brackets up to a depth and whole numbers up to a number of digits. A value
that keeps to both (`Json.fits`) is read back from its text, whatever way of escaping that can be
undone wrote it, and nothing is left over: this is `read_write`. `decode_write` says the same of an
object as the body of a message.

The proof is an induction on the value. Whatever follows the text of a value, up to what could go on
with a number or a word, is left as it is (`readValue_write`), so the texts of items can stand one
after the other. Twice the length of a text bounds the steps that it takes to read it.
-/

set_option autoImplicit false

namespace FacetSearch

open Grammar

namespace Json

mutual

/-- Whether a value keeps to the limits of the reader: its brackets stand in one another at most so
deep, and its whole numbers do not have too many digits. -/
def fits (depth : Nat) : Value → Bool
  | .int number => decide ((naturalText number.natAbs).length ≤ digitLimit)
  | .list items => depth != 0 && allFit (depth - 1) items
  | .map entries => depth != 0 && allEntriesFit (depth - 1) entries
  | _ => true

/-- Whether all items keep to the limits. -/
def allFit (depth : Nat) : List Value → Bool
  | [] => true
  | x :: xs => fits depth x && allFit depth xs

/-- Whether the values of all entries keep to the limits. -/
def allEntriesFit (depth : Nat) : List (Value × Value) → Bool
  | [] => true
  | (_, value) :: rest => fits depth value && allEntriesFit depth rest

end

/-- Items keep to the limits when each of them does. The limits do not count items, so a list may be
of any length. -/
theorem allFit_eq (depth : Nat) (items : List Value) :
    allFit depth items = items.all (fits depth) := by
  induction items with
  | nil => rfl
  | cons x xs ih => rw [allFit, ih, List.all_cons]

/-- Fields keep to the limits when the value of each of them does. -/
theorem allEntriesFit_eq (depth : Nat) (fields : List (Text × Value)) :
    allEntriesFit depth (fields.map Value.entry)
      = fields.all fun field => fits depth field.2 := by
  induction fields with
  | nil => rfl
  | cons field rest ih => rw [List.map_cons, Value.entry, allEntriesFit, ih, List.all_cons]

/-! ### Between the pieces -/

/-- What starts a value is no blank, so a value is read from where it starts. -/
theorem skipSpace_cons {c : CodePoint} (h : startsValue c = true) (rest : List CodePoint) :
    skipSpace (c :: rest) = c :: rest := by
  have hblank : isSpace c = false := by
    simp only [isSpace, Bool.or_eq_false_iff, beq_eq_false_iff_ne]
    exact ⟨⟨⟨ne_of_startsValue h rfl, ne_of_startsValue h rfl⟩, ne_of_startsValue h rfl⟩,
      ne_of_startsValue h rfl⟩
  rw [skipSpace, List.dropWhile_cons_of_neg (by rw [hblank]; decide)]

/-- A piece takes up no more than the pieces that it is joined with, and less when there are any.
The separator counts too, and gives the spare step. -/
theorem length_joined_cons_cons (piece next : List CodePoint) (others : List (List CodePoint)) :
    (joined [.char ','] (piece :: next :: others)).length
      = piece.length + 1 + (joined [.char ','] (next :: others)).length := by
  simp [joined]
  omega

/-- No blanks stand in front of pieces of which the first starts a value. -/
theorem skipSpace_joined {c : CodePoint} (h : startsValue c = true) (tail : List CodePoint)
    (others : List (List CodePoint)) (rest : List CodePoint) :
    skipSpace (joined [.char ','] ((c :: tail) :: others) ++ rest)
      = joined [.char ','] ((c :: tail) :: others) ++ rest := by
  rw [joined_cons_append, List.cons_append]
  exact skipSpace_cons h _

/-- Fields under distinct names make a mapping as they are. The reader puts them one by one, and
none takes the place of another. -/
theorem mapOf_ofFields {fields : List (Text × Value)} (h : (fields.map (·.1)).Nodup) :
    Value.mapOf (fields.map Value.entry) = .ofFields fields := by
  rw [Value.mapOf, Entries.putAllBy_of_pairwise]
  · rfl
  · rw [List.pairwise_map]
    exact (List.pairwise_map.mp h).imp fun hne => by
      simpa [Value.entry, Value.sameKey, Value.text?] using Ne.symm hne

/-! ### Values -/

variable {escape : CodePoint → List CodePoint} {P : Text → Prop}

/-- What reads the text of a value back, whatever follows it. Twice the length of the text is fuel
enough: a bracket takes a step for the value and one for its items. -/
def ReadsBack (escape : CodePoint → List CodePoint) (depth : Nat) (v : Value) : Prop :=
  ∀ (fuel : Nat) (rest : List CodePoint), 2 * (write escape v).length ≤ fuel →
    Stops continuesToken rest → readValue depth fuel (write escape v ++ rest) = .ok (v, rest)

/-- Items end with the closing bracket, right behind the last one. -/
theorem readItems_last {depth fuel : Nat} {text rest : List CodePoint} {item : Value}
    (h : readValue depth fuel text = .ok (item, .char ']' :: rest)) :
    readItems depth (fuel + 1) text = .ok ([item], rest) := by
  rw [readItems, h]
  rfl

/-- Items go on behind a comma, with what is read of the others. -/
theorem readItems_cons {depth fuel : Nat} {text next rest : List CodePoint} {item : Value}
    {items : List Value} (h : readValue depth fuel text = .ok (item, .char ',' :: next))
    (hitems : readItems depth fuel (skipSpace next) = .ok (items, rest)) :
    readItems depth (fuel + 1) text = .ok (item :: items, rest) := by
  rw [readItems, h]
  show (readItems depth fuel (skipSpace next) >>= _) = _
  rw [hitems]
  rfl

/-- Items that are read back one by one are read back together, up to the closing bracket. By
induction on the items, with one step of the fuel for each. -/
theorem readItems_write {depth : Nat} {items : List Value} (hne : items ≠ [])
    (htree : ∀ v ∈ items, v.IsTree P) (hread : ∀ v ∈ items, ReadsBack escape depth v)
    (fuel : Nat) (rest : List CodePoint)
    (hfuel : 2 * (joined [.char ','] (items.map (write escape))).length < fuel) :
    readItems depth fuel (joined [.char ','] (items.map (write escape)) ++ .char ']' :: rest)
      = .ok (items, rest) := by
  induction items generalizing fuel with
  | nil => exact absurd rfl hne
  | cons x xs ih =>
      obtain ⟨fuel, rfl⟩ : ∃ spare, fuel = spare + 1 := ⟨fuel - 1, by omega⟩
      have hx := hread x List.mem_cons_self fuel
      -- The last item is followed by the bracket, any other by a comma.
      cases xs with
      | nil =>
          exact readItems_last <|
            hx (.char ']' :: rest) (Nat.le_of_lt_succ hfuel) (stops_cons (by decide) rest)
      | cons y ys =>
          rw [List.map_cons, List.map_cons, length_joined_cons_cons] at hfuel
          have hitems := ih (List.cons_ne_nil y ys)
            (fun v hv => htree v (List.mem_cons_of_mem _ hv))
            (fun v hv => hread v (List.mem_cons_of_mem _ hv)) fuel
            (by rw [List.map_cons]; omega)
          obtain ⟨c, tail, htext, hc⟩ := exists_cons_write escape (htree y (by simp))
          rw [List.map_cons, joined_cons_append, if_neg (by simp), List.singleton_append]
          refine readItems_cons (hx _ (by omega) (stops_cons (by decide) _)) ?_
          rw [List.map_cons, htext] at hitems ⊢
          rw [skipSpace_joined hc]
          exact hitems

/-! ### Entries -/

/-- The rest of a quoted text is read after its opening quote, up to its closing one. -/
theorem readString?_quoted (h : IsUndone P escape) {content : Text} (hcontent : P content)
    (rest : List CodePoint) :
    orMalformed (readString?
        ((content.toList.flatMap escape ++ .char '"' :: rest).length + 1)
        (content.toList.flatMap escape ++ .char '"' :: rest))
      = .ok (content.toList, rest) := by
  rw [h content hcontent]
  · rfl
  · rw [List.length_append]
    omega

/-- A quoted text with something behind it. -/
theorem quotedBy_append (content : Text) (rest : List CodePoint) :
    quotedBy escape content ++ rest
      = .char '"' :: (content.toList.flatMap escape ++ .char '"' :: rest) := by
  simp [quotedBy]

section

variable {depth fuel : Nat} {name : Text} {value : List CodePoint} {v : Value}

/-- Entries end with the closing brace, right behind the last value. -/
theorem readEntries_last (h : IsUndone P escape) (hname : P name) {rest : List CodePoint}
    (hvalue : readValue depth fuel (skipSpace value) = .ok (v, .char '\x7d' :: rest)) :
    readEntries depth (fuel + 1) (quotedBy escape name ++ .char ':' :: value)
      = .ok ([(.text name, v)], rest) := by
  rw [quotedBy_append, readEntries, readString?_quoted h hname]
  show (readValue depth fuel (skipSpace value) >>= _) = _
  rw [hvalue]
  rfl

/-- Entries go on behind a comma, with what is read of the others. Whether a name was read before
does not matter here. -/
theorem readEntries_cons (h : IsUndone P escape) (hname : P name) {next rest : List CodePoint}
    {entries : List (Value × Value)}
    (hvalue : readValue depth fuel (skipSpace value) = .ok (v, .char ',' :: next))
    (hentries : readEntries depth fuel (skipSpace next) = .ok (entries, rest)) :
    readEntries depth (fuel + 1) (quotedBy escape name ++ .char ':' :: value)
      = .ok ((.text name, v) :: entries, rest) := by
  rw [quotedBy_append, readEntries, readString?_quoted h hname]
  show (readValue depth fuel (skipSpace value) >>= _) = _
  rw [hvalue]
  show (readEntries depth fuel (skipSpace next) >>= _) = _
  rw [hentries]
  rfl

end

/-- Fields whose values are read back one by one are read back together, up to the closing brace. By
induction on the fields, as for items, with a name and a colon in front of each value. -/
theorem readEntries_write (h : IsUndone P escape) {depth : Nat} {fields : List (Text × Value)}
    (hne : fields ≠ []) (hnames : ∀ field ∈ fields, P field.1)
    (htree : ∀ field ∈ fields, field.2.IsTree P)
    (hread : ∀ field ∈ fields, ReadsBack escape depth field.2) (fuel : Nat)
    (rest : List CodePoint)
    (hfuel : 2 * (joined [.char ','] (fields.map (writeField escape))).length < fuel) :
    readEntries depth fuel
        (joined [.char ','] (fields.map (writeField escape)) ++ .char '\x7d' :: rest)
      = .ok (fields.map Value.entry, rest) := by
  induction fields generalizing fuel with
  | nil => exact absurd rfl hne
  | cons field others ih =>
      obtain ⟨fuel, rfl⟩ : ∃ spare, fuel = spare + 1 := ⟨fuel - 1, by omega⟩
      have hname := hnames field List.mem_cons_self
      have hlength : (writeField escape field).length
          = (quotedBy escape field.1).length + 1 + (write escape field.2).length := by
        rw [writeField, List.length_append, List.length_cons]
        omega
      obtain ⟨c, tail, htext, hc⟩ := exists_cons_write escape (htree field (by simp))
      -- No blanks stand in front of the value.
      have hvalue (after : List CodePoint) : 2 * (write escape field.2).length ≤ fuel →
          Stops continuesToken after →
          readValue depth fuel (skipSpace (write escape field.2 ++ after))
            = .ok (field.2, after) := by
        intro hbound hstops
        have hread := hread field List.mem_cons_self fuel after hbound hstops
        rw [htext] at hread ⊢
        exact (congrArg (readValue depth fuel) (skipSpace_cons hc _)).trans hread
      -- The last field is followed by the brace, any other by a comma.
      cases others with
      | nil =>
          rw [List.map_cons, List.map_nil] at hfuel
          change 2 * (writeField escape field).length < fuel + 1 at hfuel
          show readEntries depth (fuel + 1)
            (writeField escape field ++ .char '\x7d' :: rest) = _
          rw [writeField, List.append_assoc]
          exact readEntries_last h hname (hvalue _ (by omega) (stops_cons (by decide) rest))
      | cons next others =>
          rw [List.map_cons, List.map_cons, length_joined_cons_cons] at hfuel
          have hfields := ih (List.cons_ne_nil next others)
            (fun f hf => hnames f (List.mem_cons_of_mem _ hf))
            (fun f hf => htree f (List.mem_cons_of_mem _ hf))
            (fun f hf => hread f (List.mem_cons_of_mem _ hf)) fuel (by rw [List.map_cons]; omega)
          rw [List.map_cons, joined_cons_append, if_neg (by simp), List.singleton_append,
            writeField, List.append_assoc]
          refine readEntries_cons h hname (hvalue _ (by omega) (stops_cons (by decide) _)) ?_
          have hskip := skipSpace_joined (show startsValue (.char '"') = true from rfl)
            (next.1.toList.flatMap escape ++ [.char '"'] ++ .char ':' :: write escape next.2)
            (others.map (writeField escape)) (.char '\x7d' :: rest)
          exact (congrArg (readEntries depth fuel) hskip).trans hfields

/-! ### Values -/

/-- A text that starts with another character does not start with a word. -/
theorem afterWord?_of_ne {c w : Char} (h : c ≠ w) (word : List Char) (rest : List CodePoint) :
    afterWord? (w :: word) (.char c :: rest) = none := by
  rw [afterWord?, if_neg fun heq => h (CodePoint.char.inj heq)]

/-- No name starts with a digit, so a number is not taken for one. -/
theorem readName?_of_isDigit {c : Char} (h : c.isDigit = true) (rest : List CodePoint) :
    readName? (.char c :: rest) = none := by
  have hne (d : Char) (hd : d.isDigit = false) : c ≠ d := by
    rintro rfl
    rw [h] at hd
    cases hd
  rw [readName?, List.findSome?_eq_none_iff]
  intro entry hentry
  simp only [names, List.mem_cons, List.not_mem_nil, or_false] at hentry
  rcases hentry with rfl | rfl | rfl | rfl | rfl | rfl <;>
    exact congrArg (Option.map _) (afterWord?_of_ne (hne _ rfl) _ rest)

/-- No name starts with a minus sign and a digit. One name does start with a minus sign: that of the
negative infinity. -/
theorem readName?_of_minus {c : Char} (h : c.isDigit = true) (rest : List CodePoint) :
    readName? (.char '-' :: .char c :: rest) = none := by
  have hne : c ≠ 'I' := by
    rintro rfl
    cases h
  have hword : afterWord? "-Infinity".toList (.char '-' :: .char c :: rest) = none :=
    (if_pos rfl).trans (afterWord?_of_ne hne _ rest)
  rw [readName?, List.findSome?_eq_none_iff]
  intro entry hentry
  simp only [names, List.mem_cons, List.not_mem_nil, or_false] at hentry
  rcases hentry with rfl | rfl | rfl | rfl | rfl | rfl
  case inr.inr.inr.inr.inr => exact congrArg (Option.map _) hword
  all_goals rfl

/-- A number is read as one: its first character starts neither a string, a bracket nor a name. -/
theorem readValue_signedText (depth fuel : Nat) (negative : Bool) {p : DecimalParts}
    (h : p.IsProper) (rest : List CodePoint) :
    readValue depth (fuel + 1) ((p.signedText negative).map .char ++ rest)
      = orMalformed (readNumber? negative (p.text.map .char ++ rest)) := by
  obtain ⟨c, tail, htext, hc⟩ := DecimalParts.exists_cons_text h
  -- A minus sign is looked for before anything else that could start a number.
  cases negative with
  | true =>
      show readValue depth (fuel + 1) (.char '-' :: (p.text.map .char ++ rest)) = _
      rw [htext, List.map_cons, List.cons_append, readValue]
      simp only [readName?_of_minus hc]
      rfl
  | false =>
      show readValue depth (fuel + 1) (p.text.map .char ++ rest) = _
      -- A digit is none of the characters that open other values.
      have hne (d : Char) (hd : d.isDigit = false) : CodePoint.char c ≠ .char d := by
        intro heq
        rw [CodePoint.char.inj heq] at hc
        rw [hc] at hd
        cases hd
      rw [htext, List.map_cons, List.cons_append, readValue, if_neg (hne _ rfl), if_neg (hne _ rfl),
        if_neg (hne _ rfl)]
      simp only [readName?_of_isDigit hc, if_neg (hne '-' rfl)]

/-- The text of a value is not empty, so the reader has a step to take. This leaves out the case of
no fuel once for all kinds of values. -/
theorem readsBack_of_succ {depth : Nat} {v : Value} (hv : v.IsTree P)
    (h : ∀ (fuel : Nat) (rest : List CodePoint), 2 * (write escape v).length ≤ fuel + 1 →
      Stops continuesToken rest →
      readValue depth (fuel + 1) (write escape v ++ rest) = .ok (v, rest)) :
    ReadsBack escape depth v := by
  intro fuel rest hfuel hrest
  cases fuel with
  | zero =>
      obtain ⟨c, tail, htext, -⟩ := exists_cons_write escape hv
      rw [htext] at hfuel
      cases hfuel
  | succ fuel => exact h fuel rest hfuel hrest

/-- **A written value is read back.** What follows the text of a value that keeps to the limits is
left as it is. -/
theorem readValue_write (h : IsUndone P escape) {v : Value} (hv : v.IsJson P) {depth : Nat}
    (hfits : fits depth v = true) : ReadsBack escape depth v := by
  have htree := hv.isTree
  induction hv generalizing depth with
  | null => exact readsBack_of_succ htree fun _ _ _ _ => rfl
  | bool flag =>
      refine readsBack_of_succ htree fun _ _ _ _ => ?_
      cases flag <;> rfl
  | int n =>
      refine readsBack_of_succ htree fun fuel rest _ hrest => ?_
      rw [write, integerText_eq, readValue_signedText _ _ _ (DecimalParts.isProper_ofNat _),
        readNumber?_ofNat (of_decide_eq_true hfits) hrest]
      rfl
  | @float number hfinite =>
      refine readsBack_of_succ htree fun fuel rest _ hrest => ?_
      cases number with
      | infinite => cases hfinite
      | nan => cases hfinite
      | finite negative significand exponent hcanonical =>
          rw [write, Binary64.text_finite, ← DecimalParts.signedText,
            readValue_signedText _ _ _ (Binary64.isProper_magnitudeParts hcanonical),
            readNumber?_magnitudeParts negative hcanonical hrest]
          rfl
  | text hcontent =>
      refine readsBack_of_succ htree fun fuel rest _ _ => ?_
      rw [write, quotedBy_append, readValue, if_pos rfl, readString?_quoted h hcontent]
      rfl
  | @list items hitems ih =>
      refine readsBack_of_succ htree fun fuel rest hfuel _ => ?_
      rw [fits, allFit_eq, Bool.and_eq_true, bne_iff_ne] at hfits
      have hread : ∀ v ∈ items, ReadsBack escape (depth - 1) v := fun v hv =>
        ih v hv (List.all_eq_true.mp hfits.2 v hv) (hitems v hv).isTree
      rw [write_list] at hfuel ⊢
      -- The empty list is closed at once; any other is read by its items.
      cases items with
      | nil =>
          show readValue depth (fuel + 1) (.char '[' :: .char ']' :: rest) = _
          rw [readValue, if_neg (by decide), if_pos rfl, if_neg hfits.1]
          rfl
      | cons x xs =>
          have hinner := readItems_write (List.cons_ne_nil x xs)
            (fun v hv => (hitems v hv).isTree) hread fuel rest (by
              rw [arrayText, List.length_cons, List.length_append] at hfuel
              omega)
          obtain ⟨c, tail, htext, hc⟩ :=
            exists_cons_write escape (hitems x List.mem_cons_self).isTree
          have htext' : arrayText ((x :: xs).map (write escape)) ++ rest
              = .char '[' :: (joined [.char ','] ((c :: tail) :: xs.map (write escape)) ++
                .char ']' :: rest) := by
            simp [arrayText, htext]
          rw [List.map_cons, htext] at hinner
          rw [htext', readValue, if_neg (by decide), if_pos rfl, if_neg hfits.1,
            skipSpace_joined hc]
          split
          · rename_i after heq
            rw [joined_cons_append, List.cons_append] at heq
            exact absurd (List.cons.inj heq).1 (ne_of_startsValue hc rfl)
          · rw [hinner]
            rfl
  | @object fields hdistinct hnames hvalues ih =>
      refine readsBack_of_succ htree fun fuel rest hfuel _ => ?_
      rw [Value.ofFields_eq, fits, allEntriesFit_eq, Bool.and_eq_true, bne_iff_ne] at hfits
      have hread : ∀ field ∈ fields, ReadsBack escape (depth - 1) field.2 := fun field hfield =>
        ih field hfield (List.all_eq_true.mp hfits.2 field hfield) (hvalues field hfield).isTree
      rw [write_ofFields] at hfuel ⊢
      -- The empty object is closed at once; any other is read by its entries.
      cases fields with
      | nil =>
          show readValue depth (fuel + 1) (.char '\x7b' :: .char '\x7d' :: rest) = _
          rw [readValue, if_neg (by decide), if_neg (by decide), if_pos rfl, if_neg hfits.1]
          rfl
      | cons field others =>
          have hinner := readEntries_write h (List.cons_ne_nil field others) hnames
            (fun f hf => (hvalues f hf).isTree) hread fuel rest (by
              rw [objectText, List.length_cons, List.length_append] at hfuel
              omega)
          let inner := joined [.char ','] ((field :: others).map (writeField escape)) ++
            .char '\x7d' :: rest
          have hskip : skipSpace inner = inner :=
            skipSpace_joined (show startsValue (.char '"') = true from rfl)
              (field.1.toList.flatMap escape ++ [CodePoint.char '"'] ++
                .char ':' :: write escape field.2)
              (others.map (writeField escape)) (.char '\x7d' :: rest)
          obtain ⟨tail, htail⟩ : ∃ tail, inner = .char '"' :: tail := by
            refine ⟨inner.tail, ?_⟩
            show joined _ _ ++ _ = _
            rw [show inner = _ ++ .char '\x7d' :: rest from rfl, List.map_cons, joined_cons_append]
            rfl
          have htext : objectText ((field :: others).map (writeField escape)) ++ rest
              = .char '\x7b' :: inner := by
            simp [objectText, inner]
          rw [htext, readValue, if_neg (by decide), if_neg (by decide), if_pos rfl, if_neg hfits.1,
            hskip, htail]
          change readEntries (depth - 1) fuel inner = _ at hinner
          rw [htail] at hinner
          show (readEntries (depth - 1) fuel (.char '"' :: tail) >>= _) = _
          rw [hinner]
          show Except.ok (Value.mapOf _, _) = _
          rw [mapOf_ofFields hdistinct]

/-- A written value is read, and nothing is left over. Its text is not preceded by a blank, and
nothing follows it. -/
theorem read_write (h : IsUndone P escape) {v : Value} (hv : v.IsJson P)
    (hfits : fits depthLimit v = true) : read (write escape v) = .ok v := by
  obtain ⟨c, tail, htext, hc⟩ := exists_cons_write escape hv.isTree
  have hskip : skipSpace (write escape v) = write escape v := by
    rw [htext]
    exact skipSpace_cons hc _
  have hread := readValue_write h hv hfits (2 * (write escape v).length + 2) [] (by omega) Stops.nil
  rw [List.append_nil] at hread
  rw [read, hskip, hread]
  rfl

/-! ### Bodies -/

/-- Members in brackets have no surrogate when none of them has. -/
theorem areChars_arrayText {pieces : List (List CodePoint)}
    (h : ∀ piece ∈ pieces, CodePoint.AreChars piece) : CodePoint.AreChars (arrayText pieces) := by
  have hjoined := CodePoint.areChars_joined (CodePoint.areChars_map [',']) h
  simpa [arrayText] using hjoined

/-- Members in braces have no surrogate when none of them has. The braces and the commas are
characters. -/
theorem areChars_objectText {pieces : List (List CodePoint)}
    (h : ∀ piece ∈ pieces, CodePoint.AreChars piece) : CodePoint.AreChars (objectText pieces) := by
  have hjoined := CodePoint.areChars_joined (CodePoint.areChars_map [',']) h
  simpa [objectText] using hjoined

/-- What is written of a value without surrogates has none. By induction on the value, with every
piece in between made of characters. -/
theorem areChars_write {v : Value} (hv : v.IsTree Text.IsUnicode) :
    CodePoint.AreChars (write jsonPoint v) := by
  induction hv with
  | null => exact CodePoint.areChars_map _
  | bool => exact CodePoint.areChars_map _
  | int => exact CodePoint.areChars_map _
  | float => exact CodePoint.areChars_map _
  | text hcontent => exact CodePoint.areChars_jsonQuoted hcontent
  | list _ ih =>
      rw [write_list]
      exact areChars_arrayText (List.forall_mem_map.mpr ih)
  | object hnames _ ih =>
      rw [write_ofFields]
      refine areChars_objectText (List.forall_mem_map.mpr fun field hfield => ?_)
      rw [writeField, CodePoint.areChars_append, CodePoint.areChars_char_cons]
      exact ⟨CodePoint.areChars_jsonQuoted (hnames field hfield), ih field hfield⟩

/-- The text of an object starts with its brace, and then with the quote of a name or with the
closing brace. From these two the encoding of a body is told. -/
theorem exists_write_ofFields (escape : CodePoint → List CodePoint)
    (fields : List (Text × Value)) :
    ∃ second rest, write escape (.ofFields fields) = .char '\x7b' :: .char second :: rest ∧
      (second = '"' ∨ second = '\x7d') := by
  rw [write_ofFields]
  cases fields with
  | nil => exact ⟨_, _, rfl, Or.inr rfl⟩
  | cons field others =>
      rw [objectText, List.map_cons, joined_cons_append]
      exact ⟨_, _, rfl, Or.inl rfl⟩

/-- The value that a body is read as: the text of its bytes first, then the value of the text. -/
def decode (body : String) : Except Fault Value := (orMalformed (bodyPoints? body)).bind read

/-- **A written object is read from a body.** The text of the object starts with a brace and a
quote, or with two braces, so its encoding is not mistaken. -/
theorem decode_write {fields : List (Text × Value)}
    (hv : (Value.ofFields fields).IsJson Text.IsUnicode)
    (hfits : fits depthLimit (.ofFields fields) = true) {body : String}
    (hbody : write jsonPoint (.ofFields fields) = body.toList.map .char) :
    decode body = .ok (.ofFields fields) := by
  obtain ⟨chars, rfl⟩ : ∃ chars, body = String.ofList chars :=
    ⟨body.toList, String.ofList_toList.symm⟩
  rw [String.toList_ofList] at hbody
  -- The first two characters decide for UTF-8, so the body is read as it was written.
  have hpoints : bodyPoints? (String.ofList chars) = some (chars.map .char) := by
    obtain ⟨second, rest, htext, hsecond⟩ := exists_write_ofFields jsonPoint fields
    obtain ⟨first, others, rfl, hfirst, hothers⟩ :=
      List.map_eq_cons_iff.mp (hbody.symm.trans htext)
    obtain ⟨next, behind, rfl, hnext, -⟩ := List.map_eq_cons_iff.mp hothers
    cases hfirst
    cases hnext
    refine bodyPoints?_ofList (by decide) ?_ behind
    rcases hsecond with rfl | rfl <;> decide
  rw [decode, hpoints]
  have hread := read_write isUndone_jsonPoint (hv.imp fun _ _ => trivial) hfits
  rwa [hbody] at hread

end Json

end FacetSearch
