import FacetSearch.Proofs.Json.Depth
import FacetSearch.Proofs.Json.Unambiguous

/-!
# `FacetSearch.Proofs.Json.Spelled`: the texts that JSON spells

A document of JSON is made of characters, and it can spell a surrogate only by an escape. The reader
joins a high surrogate with a low one that is escaped right after it, so the texts that documents
spell are the unpaired ones, and every unpaired text is spelled by one (`isSpelled_iff`).
Texts from elsewhere may hold such a pair.

A text in ASCII does not tell the two ways to hold a pair apart. What it does tell of a value with
any texts is the value with its pairs joined: `write_asciiPoint_eq_iff`.
-/

set_option autoImplicit false

namespace FacetSearch

/-! ### Strings -/

namespace Json

/-- An escaped unit is read as itself, and the text after it stays. Or it makes a pair with the low
surrogate that is escaped right after it, and both are one character. -/
theorem readEscapedPoint_cases (unit : Nat) (rest : List CodePoint) :
    (readEscapedPoint unit rest = (.ofUnit unit, rest) ∧
        ∀ more low after, rest = .char '\\' :: .char 'u' :: more →
          readUnit? more = some (low, after) →
          (CodePoint.isHigh unit && CodePoint.isLow low) = false) ∨
      ∃ c after, readEscapedPoint unit rest = (.char c, after) ∧ after <:+ rest := by
  -- Either the low surrogate of a pair is escaped right behind, or nothing there makes a pair.
  by_cases hpair : ∃ more low after, rest = .char '\\' :: .char 'u' :: more ∧
      readUnit? more = some (low, after) ∧ (CodePoint.isHigh unit && CodePoint.isLow low) = true
  · obtain ⟨more, low, after, rfl, hread, hpair⟩ := hpair
    have hread' : readEscapedPoint unit (.char '\\' :: .char 'u' :: more)
        = (.ofPair unit low, after) := by
      rw [readEscapedPoint, hread]
      exact if_pos hpair
    exact Or.inr ⟨_, after, hread', (readUnit?_suffix hread).trans ⟨[_, _], rfl⟩⟩
  · have hnone : ∀ more low after, rest = .char '\\' :: .char 'u' :: more →
        readUnit? more = some (low, after) →
        (CodePoint.isHigh unit && CodePoint.isLow low) = false :=
      fun more low after hrest hread => Bool.eq_false_iff.mpr fun h =>
        hpair ⟨more, low, after, hrest, hread, h⟩
    exact Or.inl ⟨readEscapedPoint_of_not_pair hnone, hnone⟩

/-- What is read of characters has no pairs, and starts with a low surrogate only where the escape
of one stands. The second part carries the induction: it says when a high surrogate in front would
have taken it. -/
theorem joinPairs_of_readString? {fuel : Nat} {text points after : List CodePoint}
    (hchars : ∀ point ∈ text, ∃ c, point = CodePoint.char c)
    (h : readString? fuel text = some (points, after)) :
    CodePoint.joinPairs points = points ∧
      ∀ point ∈ points.head?, CodePoint.isLow point.toNat = true →
        ∃ more rest, text = .char '\\' :: .char 'u' :: more ∧
          readUnit? more = some (point.toNat, rest) := by
  -- A character makes no pair with anything, on either side.
  have hchar (c : Char) {others : List CodePoint} (hothers : CodePoint.joinPairs others = others) :
      CodePoint.joinPairs (.char c :: others) = .char c :: others := by
    rw [CodePoint.joinPairs_cons fun b _ => CodePoint.isPair_char c b, hothers]
  have hnever (c : Char) {others : List CodePoint} (P : CodePoint → Prop) :
      ∀ point ∈ (CodePoint.char c :: others).head?, CodePoint.isLow point.toNat = true →
        P point := by
    intro point hpoint hlow
    rw [← Option.some.inj hpoint, CodePoint.toNat, CodePoint.isLow_toNat_char] at hlow
    cases hlow
  fun_induction readString? fuel text generalizing points after with
  | case1 => cases h
  | case2 => cases h
  | case3 =>
      cases h
      exact ⟨rfl, fun point hpoint => by cases hpoint⟩
  | case4 fuel rest ih =>
      simp only [Option.bind_eq_bind, Option.bind_eq_some_iff, Option.pure_def, Option.some.injEq,
        Prod.mk.injEq, Prod.exists] at h
      obtain ⟨unit, behind, hunit, others, _, hread, rfl, rfl⟩ := h
      have hbehind : ∀ point ∈ behind, ∃ c, point = CodePoint.char c := fun point hpoint =>
        hchars point (List.mem_cons_of_mem _ (List.mem_cons_of_mem _
          ((readUnit?_suffix hunit).subset hpoint)))
      -- An escaped unit stands alone, or it has taken the low surrogate behind it.
      rcases readEscapedPoint_cases unit behind with ⟨hpoint, hapart⟩ | ⟨c, left, hpoint, hsuffix⟩
      · rw [hpoint] at hread ⊢
        obtain ⟨hothers, hfirst⟩ := ih behind hbehind hread
        refine ⟨?_, fun point hmem hlow => ?_⟩
        · refine (CodePoint.joinPairs_cons fun b hb => ?_).trans (congrArg _ hothers)
          -- A low surrogate behind a high one was escaped there, and has been joined with it.
          refine Bool.eq_false_iff.mpr fun hpair => ?_
          obtain ⟨hhigh, hlow⟩ := Bool.and_eq_true_iff.mp hpair
          obtain ⟨more, low, htext, hlowUnit⟩ := hfirst b hb hlow
          have hno := hapart more _ low htext hlowUnit
          rw [hlow, Bool.and_true] at hno
          rcases CodePoint.ofUnit_cases unit with hunit | ⟨c, hc⟩
          · rw [hunit, hno] at hhigh
            cases hhigh
          · rw [hc, CodePoint.toNat, CodePoint.isHigh_toNat_char] at hhigh
            cases hhigh
        · rw [← Option.some.inj hmem] at hlow ⊢
          rcases CodePoint.ofUnit_cases unit with hnumber | ⟨c, hc⟩
          · exact ⟨rest, behind, rfl, by rw [hnumber, hunit]⟩
          · rw [hc, CodePoint.toNat, CodePoint.isLow_toNat_char] at hlow
            cases hlow
      · rw [hpoint] at hread ⊢
        obtain ⟨hothers, -⟩ := ih left (fun point hmem => hbehind point (hsuffix.subset hmem)) hread
        exact ⟨hchar c hothers, hnever c _⟩
  | case5 fuel e rest hne ih =>
      simp only [Option.bind_eq_bind, Option.bind_eq_some_iff, Option.pure_def, Option.some.injEq,
        Prod.mk.injEq, Prod.exists] at h
      obtain ⟨c, -, others, _, hread, rfl, rfl⟩ := h
      obtain ⟨hothers, -⟩ := ih (fun point hmem =>
        hchars point (List.mem_cons_of_mem _ (List.mem_cons_of_mem _ hmem))) hread
      exact ⟨hchar c hothers, hnever c _⟩
  | case6 => cases h
  | case7 fuel point rest =>
      rename_i ih
      change ((readString? fuel rest).bind _) = _ at h
      simp only [Option.bind_eq_some_iff, Option.pure_def, Option.some.injEq,
        Prod.mk.injEq, Prod.exists] at h
      obtain ⟨others, _, hread, rfl, rfl⟩ := h
      obtain ⟨hothers, -⟩ := ih (fun p hmem => hchars p (List.mem_cons_of_mem _ hmem)) hread
      obtain ⟨c, rfl⟩ := hchars point List.mem_cons_self
      exact ⟨hchar c hothers, hnever c _⟩

/-- No name stands for a text, so a text comes from quotes alone. -/
theorem readName?_ne_text (text : List CodePoint) (content : Text) (after : List CodePoint) :
    readName? text ≠ some (.text content, after) := by
  intro h
  obtain ⟨⟨name, value⟩, hmem, hword⟩ := List.exists_of_findSome?_eq_some h
  obtain ⟨rest, -, heq⟩ := Option.map_eq_some_iff.mp hword
  have hvalue : value = .text content := congrArg Prod.fst heq
  subst hvalue
  simp [names] at hmem

/-- No number is a text, whole or not. -/
theorem readNumber?_ne_text (negative : Bool) (text : List CodePoint) (content : Text)
    (after : List CodePoint) : readNumber? negative text ≠ some (.text content, after) := by
  intro h
  simp only [readNumber?, bind, Option.bind_eq_some_iff] at h
  obtain ⟨⟨whole, rest⟩, -, h⟩ := h
  split at h
  · split at h <;> cases h
  · cases h

/-- What ASCII escaping writes is made of characters, so that it can stand in a document. -/
theorem exists_map_char_asciiPoint (points : List CodePoint) :
    ∃ chars : List Char, points.flatMap asciiPoint = chars.map .char := by
  induction points with
  | nil => exact ⟨[], rfl⟩
  | cons point others ih =>
      obtain ⟨chars, hchars⟩ := ih
      rw [List.flatMap_cons, hchars]
      cases point with
      | char c => exact ⟨asciiEscape c ++ chars, List.map_append.symm⟩
      | surrogate offset => exact ⟨unitEscape _ ++ chars, List.map_append.symm⟩

/-- The reader of values gives a text only where it has read a string. By its first code point a
value is a string, and every other kind is no text. -/
theorem exists_of_readValue_eq_text {depth fuel : Nat} {text after : List CodePoint}
    {content : Text} (h : readValue depth fuel text = .ok (.text content, after)) :
    ∃ rest fuel', text = .char '"' :: rest ∧
      readString? fuel' rest = some (content.toList, after) := by
  cases fuel with
  | zero => cases h
  | succ fuel =>
      cases text with
      | nil => cases h
      | cons first rest =>
          rw [readValue] at h
          split at h
          · rename_i hquote
            cases hread : readString? (rest.length + 1) rest with
            | none => rw [hread] at h; cases h
            | some found =>
                rw [hread] at h
                cases h
                exact ⟨rest, _, by rw [hquote], hread⟩
          -- Lists, objects, names and numbers are no texts.
          split at h
          · split at h
            · cases h
            split at h
            · cases h
            · generalize readItems (depth - 1) fuel _ = found at h
              cases found <;> cases h
          split at h
          · split at h
            · cases h
            split at h
            · cases h
            · generalize readEntries (depth - 1) fuel _ = found at h
              cases found <;> cases h
          split at h
          · rename_i result hname
            cases h
            exact absurd hname (readName?_ne_text _ _ _)
          · have hnumber (negative : Bool) (digits : List CodePoint) :
                orMalformed (readNumber? negative digits) ≠ .ok (.text content, after) := by
              cases hread : readNumber? negative digits with
              | none => exact fun heq => by cases heq
              | some found =>
                  intro heq
                  cases heq
                  exact readNumber?_ne_text _ _ _ _ hread
            split at h
            · exact absurd h (hnumber _ _)
            · exact absurd h (hnumber _ _)

/-- A text is one of JSON when a document of JSON spells it. Documents are made of characters, so a
surrogate is spelled by an escape. -/
def IsSpelled (t : Text) : Prop :=
  ∃ chars : List Char, read (chars.map .char) = .ok (.text t)

/-- **The texts that documents of JSON spell are the unpaired ones.** What is read of characters has
had its pairs joined, and an unpaired text is read back from its spelling in ASCII. -/
theorem isSpelled_iff {t : Text} : IsSpelled t ↔ t.IsUnpaired := by
  constructor
  · rintro ⟨chars, h⟩
    have hchars : ∀ point ∈ chars.map CodePoint.char, ∃ c, point = CodePoint.char c :=
      Text.isUnicode_iff.mpr ⟨chars, rfl⟩
    rw [read] at h
    cases hvalue : readValue depthLimit (2 * (chars.map CodePoint.char).length + 2)
        (skipSpace (chars.map .char)) with
    | error => rw [hvalue] at h; cases h
    | ok found =>
        obtain ⟨value, after⟩ := found
        rw [hvalue] at h
        change (if (skipSpace after).isEmpty then (.ok value : Except Fault Value)
          else .error .malformed) = _ at h
        split at h
        · cases h
          obtain ⟨rest, fuel, htext, hstring⟩ := exists_of_readValue_eq_text hvalue
          have hrest : ∀ point ∈ rest, ∃ c, point = CodePoint.char c := fun point hpoint =>
            hchars point ((suffix_of_skipSpace htext).subset hpoint)
          exact congrArg Text.ofList (joinPairs_of_readString? hrest hstring).1
        · cases h
  -- A text is spelled by its ASCII form in quotes, which is read back when no pair is in it.
  · intro ht
    obtain ⟨chars, hchars⟩ := exists_map_char_asciiPoint t.toList
    refine ⟨'"' :: (chars ++ ['"']), ?_⟩
    have hread := read_write isUndone_asciiPoint (.text ht) rfl
    rw [write, quotedBy, hchars] at hread
    rwa [List.map_cons, List.map_append]

end Json

/-! ### Values -/

namespace Value

mutual

/-- A value with the pairs of surrogates joined in all its texts, names of entries included, at
every depth. -/
def joinPairs : Value → Value
  | .text content => .text content.joinPairs
  | .list items => .list (joinPairsItems items)
  | .map entries => .map (joinPairsEntries entries)
  | other => other

/-- Items with pairs joined, one by one. -/
def joinPairsItems : List Value → List Value
  | [] => []
  | x :: xs => joinPairs x :: joinPairsItems xs

/-- Entries with pairs joined in their keys and values. -/
def joinPairsEntries : List (Value × Value) → List (Value × Value)
  | [] => []
  | (key, value) :: rest => (joinPairs key, joinPairs value) :: joinPairsEntries rest

end

/-- Items with pairs joined, as a map. -/
theorem joinPairsItems_eq (items : List Value) : joinPairsItems items = items.map joinPairs := by
  induction items with
  | nil => rfl
  | cons x xs ih => rw [joinPairsItems, ih, List.map_cons]

/-- A field with pairs joined in its name and its value. Two names can become one by it. -/
def joinPairsField (field : Text × Value) : Text × Value := (field.1.joinPairs, joinPairs field.2)

/-- An object with pairs joined. -/
theorem joinPairs_ofFields (fields : List (Text × Value)) :
    joinPairs (.ofFields fields) = .ofFields (fields.map joinPairsField) := by
  have hentries : joinPairsEntries (fields.map entry) = (fields.map joinPairsField).map entry := by
    induction fields with
    | nil => rfl
    | cons field rest ih =>
        rw [List.map_cons, entry, joinPairsEntries, ih]
        rfl
  rw [ofFields_eq, joinPairs, hentries, ofFields_eq]

/-- Joining pairs leaves unpaired texts, everywhere in a value. -/
theorem IsTree.joinPairs {P : Text → Prop} {v : Value} (h : v.IsTree P) :
    v.joinPairs.IsTree Text.IsUnpaired := by
  induction h with
  | null => exact .null
  | bool flag => exact .bool flag
  | int n => exact .int n
  | float hfinite => exact .float hfinite
  | text => exact .text (Text.isUnpaired_joinPairs _)
  | list _ ih =>
      rw [Value.joinPairs, joinPairsItems_eq]
      exact .list (List.forall_mem_map.mpr ih)
  | object _ _ ih =>
      rw [joinPairs_ofFields]
      exact .object (List.forall_mem_map.mpr fun _ _ => Text.isUnpaired_joinPairs _)
        (List.forall_mem_map.mpr ih)

/-- Joining pairs changes no value with unpaired texts. So values that came from documents are told
by their texts in ASCII. -/
theorem joinPairs_of_isTree {v : Value} (h : v.IsTree Text.IsUnpaired) : v.joinPairs = v := by
  induction h with
  | null => rfl
  | bool => rfl
  | int => rfl
  | float => rfl
  | text hcontent => exact congrArg Value.text hcontent
  | list _ ih =>
      rw [joinPairs, joinPairsItems_eq, List.map_congr_left ih, List.map_id']
  | object hnames _ ih =>
      rw [joinPairs_ofFields]
      refine congrArg ofFields ((List.map_congr_left fun field hfield => ?_).trans (List.map_id _))
      exact Prod.ext (hnames field hfield) (ih field hfield)

end Value

namespace Json

/-- A quoted text in ASCII is that of the text with its pairs joined: a pair and its character are
written by the same two units. -/
theorem quotedBy_joinPairs (content : Text) :
    quotedBy asciiPoint content.joinPairs = quotedBy asciiPoint content := by
  rw [quotedBy, Text.joinPairs, CodePoint.flatMap_asciiPoint_joinPairs, quotedBy]

/-- The text of a value in ASCII is that of the value with its pairs joined. By induction on the
value, from what holds of its texts. -/
theorem write_joinPairs {P : Text → Prop} {v : Value} (h : v.IsTree P) :
    write asciiPoint v.joinPairs = write asciiPoint v := by
  induction h with
  | null => rfl
  | bool => rfl
  | int => rfl
  | float => rfl
  | @text content _ => exact quotedBy_joinPairs content
  | list _ ih =>
      rw [Value.joinPairs, Value.joinPairsItems_eq, write_list, write_list, List.map_map]
      exact congrArg arrayText (List.map_congr_left ih)
  -- Names of fields are joined as texts are. Order and number of the fields stay.
  | object _ _ ih =>
      rw [Value.joinPairs_ofFields, write_ofFields, write_ofFields, List.map_map]
      refine congrArg objectText (List.map_congr_left fun field hfield => ?_)
      show quotedBy asciiPoint field.1.joinPairs ++ _ = _
      rw [quotedBy_joinPairs, Value.joinPairsField, ih field hfield, writeField]

/-- **What a text in ASCII tells of a value is the value with its pairs joined.** It tells no less,
since texts without pairs are read back, and no more, since joining does not change the text. -/
theorem write_asciiPoint_eq_iff {P : Text → Prop} {v w : Value} (hv : v.IsTree P)
    (hw : w.IsTree P) : write asciiPoint v = write asciiPoint w ↔ v.joinPairs = w.joinPairs := by
  -- With the pairs joined the texts are unpaired, and there a text tells its value.
  rw [← write_joinPairs hv, ← write_joinPairs hw]
  exact ⟨eq_of_write_eq isUndone_asciiPoint hv.joinPairs hw.joinPairs, fun h => by rw [h]⟩

end Json

end FacetSearch
