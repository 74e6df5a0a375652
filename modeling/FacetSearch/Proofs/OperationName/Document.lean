import FacetSearch.Proofs.Grammar.Operation

/-!
# `FacetSearch.Proofs.OperationName.Document`: the name of an operation in its document

The search for a name knows nothing of tokens. Where an operation has a name in its heading, this
comes first and is found, whatever the selection set holds. Where it has none, the search goes on,
and what it finds there is no name of an operation: the document `{ query id }` has two fields and
no name, and `id` is found (`ofText?_query_field`).

`ofText?_eq_name?` states when the result is right. Without a name nothing is found exactly when no
place of the text announces a name. Read off the tokens, it is enough that the document is quiet: no
string and no comment mentions a name, and no name or comment that trails off with a keyword stands
before a name or a number.
-/

set_option autoImplicit false

namespace FacetSearch.OperationName

open Grammar

/-- The keyword of an operation is one of the keywords. -/
theorem keyword_mem_keywords (kind : OperationKind) : kind.keyword ∈ keywords := by
  cases kind
  all_goals decide

/-- A text starts with a keyword, blanks and a name. Ignored characters can stand before it, and no
comment, since a comment could mention a name. -/
def IsHeaded (text : List CodePoint) (kind : OperationKind) (name : Text) : Prop :=
  ∃ lead blanks rest,
    text = lead ++ (kind.keyword.toList.map .char ++ (blanks ++ (name.toList ++ rest))) ∧
    lead.all isIgnored = true ∧ IsRun CodePoint.isBlank blanks ∧ isName name = true ∧
    Stops isNameChar rest

/-- A text ends with a keyword, or with a keyword and blanks. A name that comes next would be taken
for that of an operation. -/
def TrailsOff (text : List CodePoint) : Prop :=
  ∃ keyword ∈ keywords, ∃ blanks, blanks.all CodePoint.isBlank = true ∧
    keyword.toList.map .char ++ blanks <:+ text

/-- A text that trails off mentions a name together with a blank and a word character. -/
theorem TrailsOff.mentions {text : List CodePoint} (h : TrailsOff text) {c : CodePoint}
    (hc : c.isWord = true) (rest : List CodePoint) : Mentions (text ++ .char ' ' :: c :: rest) := by
  obtain ⟨keyword, hkeyword, blanks, hblanks, before, rfl⟩ := h
  have hsuffix : keyword.toList.map .char ++ ((blanks ++ [.char ' ']) ++ c :: rest) <:+
      before ++ (keyword.toList.map .char ++ blanks) ++ .char ' ' :: c :: rest := ⟨before, by simp⟩
  refine mentions_of_suffix hsuffix hkeyword ⟨by simp, ?_⟩ hc
  rw [List.all_append, hblanks]
  rfl

/-- No piece mentions a name in itself, and none that trails off stands before a name or a number.
Both can be read off the pieces of a document. -/
structure IsQuiet (pieces : List Piece) : Prop where
  silent : ∀ x ∈ pieces, ¬ Mentions x.text
  apart : pieces.IsChain fun x y => TrailsOff x.text → y.startsWord = false

/-! ### Passing over -/

/-- Nothing is announced among ignored characters, since a keyword starts with a letter. -/
theorem find?_append_of_ignored {gap : List CodePoint} (h : gap.all isIgnored = true)
    (rest : List CodePoint) : find? (gap ++ rest) = find? rest := by
  refine find?_append fun part hpart hne name hannounces => ?_
  obtain ⟨c, others, rfl⟩ := List.exists_cons_of_ne_nil hne
  obtain ⟨first, after, heq, hfirst⟩ := hannounces.exists_first
  cases heq
  have hignored := List.all_eq_true.mp h c (hpart.subset List.mem_cons_self)
  rw [isIgnored_of_isWord (isWord_of_isNameChar hfirst)] at hignored
  cases hignored

/-- Nothing is announced from within a piece of a quiet document. The keyword lies in the piece; the
name lies in it, too, or starts the next piece. -/
theorem not_announces_of_quiet {x : Piece} (hx : x.IsProper) {rest : List CodePoint}
    (hends : x.EndsBefore rest) {others : List Piece} (hrest : Spells rest others)
    (hquiet : IsQuiet (x :: others)) {part : List CodePoint} (hpart : part <:+ x.text)
    (hne : part ≠ []) (name : List CodePoint) : ¬ Announces (part ++ rest) name := by
  rintro ⟨keyword, hkeyword, blanks, after, hsplit, hblanks, hname, -⟩
  -- The keyword ends in the piece, and `tail` is what the piece has behind it.
  obtain ⟨tail, rfl, htail⟩ :=
    Piece.exists_of_word hx hends hpart hne (all_of_mem_keywords hkeyword) hsplit
  obtain ⟨c, chars, rfl⟩ := List.exists_cons_of_ne_nil hname.1
  have hc : c.isWord = true := ((Bool.and_eq_true _ _).mp hname.2).1
  -- The blanks go on behind the piece, so that it trails off and the name starts another piece.
  have hbehind : ∀ gap, blanks = tail ++ gap → rest ≠ gap ++ (c :: chars ++ after) := by
    rintro gap rfl rfl
    have hall := List.all_append ▸ hblanks.2
    rw [Bool.and_eq_true] at hall
    have hnext := hrest.of_append fun d hd => .inr (List.all_eq_true.mp hall.2 d hd)
    obtain ⟨y, ys, -, rfl, -, hy, hopens, -⟩ :=
      hnext.exists_piece (isIgnored_of_isWord hc)
    have hstarts := Piece.opensPiece_of_opens hy hopens
    have hword : isNameChar c = true := by
      rw [← (isIgnored_of_opensPiece hstarts.1).2.2]
      exact hc
    have hno := (List.isChain_cons_cons.mp hquiet.apart).1 ⟨keyword, hkeyword, tail, hall.1, hpart⟩
    rw [hstarts.2 hword] at hno
    cases hno
  -- The blanks end inside the piece, or they go on behind it.
  rcases List.append_eq_append_iff.mp htail with ⟨inner, rfl, hafter⟩ | ⟨gap, hgap, hafter⟩
  · cases inner with
    | nil => exact hbehind [] (by simp) hafter.symm
    | cons d inner =>
        obtain ⟨rfl, -⟩ := List.cons.inj hafter
        exact hquiet.silent x List.mem_cons_self (mentions_of_suffix hpart hkeyword hblanks hc)
  · exact hbehind gap hgap hafter

/-- Nothing is found in a quiet document. -/
theorem find?_of_isQuiet {text : List CodePoint} {pieces : List Piece} (h : Spells text pieces)
    (hquiet : IsQuiet pieces) : find? text = none := by
  -- On the pieces of the text: the rest of a quiet document is quiet.
  induction h with
  | done => rfl
  | @ignored c rest pieces hc hrest ih =>
      rw [← List.singleton_append, find?_append_of_ignored (by rw [List.all_cons, hc]; rfl)]
      exact ih hquiet
  | @piece x rest pieces hx hends hrest ih =>
      rw [find?_append fun part hpart hne =>
        not_announces_of_quiet hx hends hrest hquiet hpart hne]
      exact ih ⟨fun y hy => hquiet.silent y (List.mem_cons_of_mem x hy), hquiet.apart.tail⟩

/-! ### Documents -/

/-- The name in a heading is the name of the operation, and it is found. The tokens and the search
read the same heading. -/
theorem name?_of_isHeaded {op : Operation} {text : Text} {pieces : List Piece}
    (hspells : Spells text.toList pieces) (htokens : tokens pieces = op.pieces)
    {kind : OperationKind} {name : Text} (h : IsHeaded text.toList kind name) :
    op.name? = some name ∧ ofText? text = some name := by
  obtain ⟨lead, blanks, rest, htext, hlead, hblanks, hname, hrest⟩ := h
  have hkeyword : isName kind.keyword = true := by
    cases kind
    all_goals decide
  -- The keyword and the name are the first two pieces, so they are the first two tokens.
  rw [htext] at hspells
  have hopening := hspells.of_append fun c hc => .inl (List.all_eq_true.mp hlead c hc)
  have hstops : Stops isNameChar (blanks ++ (name.toList ++ rest)) :=
    hblanks.stops (fun _ => isNameChar_of_isBlank) _
  obtain ⟨others, rfl, hbehind⟩ := hopening.exists_name hkeyword hstops
  have hheading := hbehind.of_append fun c hc => .inr (List.all_eq_true.mp hblanks.2 c hc)
  obtain ⟨others, rfl, hafter⟩ := hheading.exists_name hname hrest
  refine ⟨Operation.name?_of_pieces htokens.symm, ?_⟩
  have hannounces : Announces (kind.keyword.toList.map .char ++ (blanks ++ (name.toList ++ rest)))
      name.toList :=
    ⟨_, keyword_mem_keywords kind, blanks, rest, rfl, hblanks, isRun_of_isName hname,
      hafter.stops_isWord hrest⟩
  rw [ofText?, htext, find?_append_of_ignored hlead, find?_of_announces hannounces,
    Option.map_some]

/-- **What is found in the document of one operation.** Where the document starts with a keyword,
blanks and a name, this is the name of the operation, and it is found. Where the operation has no
name, nothing is found exactly when no place of the document announces one. A quiet document
announces none. -/
theorem ofText?_eq_name? {op : Operation} {text : Text} {pieces : List Piece}
    (hspells : Spells text.toList pieces) (htokens : tokens pieces = op.pieces) :
    (∀ kind name, IsHeaded text.toList kind name →
      op.name? = some name ∧ ofText? text = op.name?) ∧
    (op.name? = none → (ofText? text = op.name? ↔ ¬ Mentions text.toList)) ∧
    (op.name? = none → IsQuiet pieces → ofText? text = op.name?) := by
  refine ⟨fun kind name hheaded => ?_, fun hnone => ?_, fun hnone hquiet => ?_⟩
  · obtain ⟨hname, hfound⟩ := name?_of_isHeaded hspells htokens hheaded
    exact ⟨hname, hfound.trans hname.symm⟩
  · rw [hnone, ofText?, Option.map_eq_none_iff]
    exact find?_eq_none_iff
  · rw [hnone, ofText?, find?_of_isQuiet hspells hquiet]
    rfl

/-- A heading before a selection that mentions another name, and a field and a string that trail
off. -/
theorem ofText?_eq_name?_two_documents :
    ofText? "query A \x7b mutation b \x7d" = some ("A" : Text) ∧
      ofText? "\x7b query(a: \"my query\") \x7d" = none := by
  constructor
  · have hspells : Spells ("query A \x7b mutation b \x7d" : Text).toList
        [.name "query", .name "A", .mark '\x7b', .name "mutation", .name "b", .mark '\x7d'] :=
      .piece (x := .name "query") rfl (Stops.cons rfl _) <| .ignored rfl <|
      .piece (x := .name "A") rfl (Stops.cons rfl _) <| .ignored rfl <|
      .piece (x := .mark '\x7b') (show '\x7b' ∈ marks by decide) trivial <| .ignored rfl <|
      .piece (x := .name "mutation") rfl (Stops.cons rfl _) <| .ignored rfl <|
      .piece (x := .name "b") rfl (Stops.cons rfl _) <| .ignored rfl <|
      .piece (x := .mark '\x7d') (show '\x7d' ∈ marks by decide) trivial .done
    let op : Operation := .full .query (some ("A" : Text)) [] [] (.field none "mutation" [] [] [])
      [.field none "b" [] [] []]
    have hheaded : IsHeaded ("query A \x7b mutation b \x7d" : Text).toList .query "A" :=
      ⟨[], [.char ' '], (" \x7b mutation b \x7d" : Text).toList, rfl, rfl,
        ⟨List.cons_ne_nil _ _, rfl⟩, rfl, Stops.cons rfl _⟩
    exact ((ofText?_eq_name? hspells (rfl : _ = op.pieces)).1 .query "A" hheaded).2
  · have hstring : IsString ("\"my query\"" : Text).toList :=
      .line <| .plain (by decide) <| .plain (by decide) <| .plain (by decide) <|
      .plain (by decide) <| .plain (by decide) <| .plain (by decide) <| .plain (by decide) <|
      .plain (by decide) .close
    have hspells : Spells ("\x7b query(a: \"my query\") \x7d" : Text).toList
        [.mark '\x7b', .name "query", .mark '(', .name "a", .mark ':',
          .string ("\"my query\"" : Text).toList, .mark ')', .mark '\x7d'] :=
      .piece (x := .mark '\x7b') (show '\x7b' ∈ marks by decide) trivial <| .ignored rfl <|
      .piece (x := .name "query") rfl (Stops.cons rfl _) <|
      .piece (x := .mark '(') (show '(' ∈ marks by decide) trivial <|
      .piece (x := .name "a") rfl (Stops.cons rfl _) <|
      .piece (x := .mark ':') (show ':' ∈ marks by decide) trivial <| .ignored rfl <|
      .piece (x := .string ("\"my query\"" : Text).toList) hstring nofun <|
      .piece (x := .mark ')') (show ')' ∈ marks by decide) trivial <| .ignored rfl <|
      .piece (x := .mark '\x7d') (show '\x7d' ∈ marks by decide) trivial .done
    let op : Operation :=
      .short (.field none "query" [("a", .string ("\"my query\"" : Text).toList)] [] []) []
    have hbrace : ¬ Mentions [.char '\x7b', .char ' ', .char 'a'] := by decide
    have hparen : ¬ Mentions [.char '(', .char ' ', .char 'a'] := by decide
    -- Names stand behind the two opening marks alone, and these do not trail off.
    have hquiet : IsQuiet op.pieces :=
      ⟨by decide,
        .cons_cons (fun h => absurd (h.mentions rfl []) hbrace) <| .cons_cons (fun _ => rfl) <|
        .cons_cons (fun h => absurd (h.mentions rfl []) hparen) <| .cons_cons (fun _ => rfl) <|
        .cons_cons (fun _ => rfl) <| .cons_cons (fun _ => rfl) <| .cons_cons (fun _ => rfl) <|
        .singleton _⟩
    exact (ofText?_eq_name? hspells (rfl : _ = op.pieces)).2.2 rfl hquiet

/-- A field that is called like a keyword makes a name of the field after it. The operation itself
has no name. -/
theorem ofText?_query_field :
    ∃ op : Operation, ∃ pieces, Spells ("\x7b query id \x7d" : Text).toList pieces ∧
      tokens pieces = op.pieces ∧ op.name? = none ∧
      ofText? "\x7b query id \x7d" = some ("id" : Text) := by
  have hspells : Spells ("\x7b query id \x7d" : Text).toList
      [.mark '\x7b', .name "query", .name "id", .mark '\x7d'] :=
    .piece (x := .mark '\x7b') (show '\x7b' ∈ marks by decide) trivial <| .ignored rfl <|
    .piece (x := .name "query") rfl (Stops.cons rfl _) <| .ignored rfl <|
    .piece (x := .name "id") rfl (Stops.cons rfl _) <| .ignored rfl <|
    .piece (x := .mark '\x7d') (show '\x7d' ∈ marks by decide) trivial .done
  exact ⟨.short (.field none "query" [] [] []) [.field none "id" [] [] []], _, hspells, rfl, rfl,
    rfl⟩

end FacetSearch.OperationName
