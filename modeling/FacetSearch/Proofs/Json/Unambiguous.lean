import FacetSearch.Proofs.Grammar.Written
import FacetSearch.Proofs.Json.Written
import FacetSearch.Proofs.Text.Joined

/-!
# `FacetSearch.Proofs.Json.Unambiguous`: a JSON text tells its value

Two values of JSON with the same text are the same value, without any limit on their depth or on
their numbers: `eq_of_write_eq`. Whole numbers and doubles keep apart, and so do the two zeros.

The proof goes along the first value. What is shown is stronger: the text of a value also tells
where it ends, whatever follows it that cannot go on with a number or a word (`write_append_inj`).
The first character tells the kind of the value (`opening?_eq`). Among scalars the reader of tokens
tells the value (`next?_write`), since their texts are tokens. Strings are told by the reader of
strings, and the parts of lists and objects one after the other (`joined_append_inj`).
-/

set_option autoImplicit false

namespace FacetSearch.Json

open Grammar

variable {escape : CodePoint → List CodePoint} {P : Text → Prop}

/-! ### Kinds of values -/

/-- The token that the text of a scalar is. Strings are left out, as JSON and queries differ in
their escapes. -/
def scalarToken? : Value → Option Token
  | .null => some (.name "null")
  | .bool flag => some (.name (if flag then "true" else "false"))
  | .int number => some (.int number)
  | .float number => some (.float number)
  | _ => none

/-- The character that strings, lists and objects start with. Scalars start with others, which are
of no use alone. -/
def opening? : Value → Option CodePoint
  | .text _ => some (.char '"')
  | .list _ => some (.char '[')
  | .map _ => some (.char '\x7b')
  | _ => none

/-- The scalar of a token. It goes back from the token to the value, so that equal tokens give equal
scalars. -/
def scalarOf : Token → Value
  | .name text => if text = "null" then .null else .bool (text == "true")
  | .int number => .int number
  | .float number => .float number
  | _ => .null

/-- A scalar is told by its token. Whole numbers and doubles have tokens of their own, so they are
not taken for each other. -/
theorem scalarOf_scalarToken? {v : Value} {t : Token} (h : scalarToken? v = some t) :
    scalarOf t = v := by
  cases v with
  | null => cases h; rfl
  | bool flag => cases h; cases flag <;> rfl
  | int => cases h; rfl
  | float => cases h; rfl
  | _ => cases h

/-- No scalar is a string or a punctuator. -/
theorem scalarToken?_ne {v : Value} {t : Token} (h : scalarToken? v = some t) :
    (∀ content, t ≠ .text content) ∧ ∀ c, t ≠ .mark c := by
  cases v with
  | null => cases h; exact ⟨nofun, nofun⟩
  | bool => cases h; exact ⟨nofun, nofun⟩
  | int => cases h; exact ⟨nofun, nofun⟩
  | float => cases h; exact ⟨nofun, nofun⟩
  | _ => cases h

/-- A value of JSON is a scalar, or has an opening character. The two ways of telling values apart
follow this. -/
theorem scalarToken?_or_opening? {v : Value} (h : v.IsTree P) :
    (∃ t, scalarToken? v = some t ∧ opening? v = none) ∨ ∃ c, opening? v = some c := by
  cases h with
  | null => exact Or.inl ⟨_, rfl, rfl⟩
  | bool => exact Or.inl ⟨_, rfl, rfl⟩
  | int => exact Or.inl ⟨_, rfl, rfl⟩
  | float => exact Or.inl ⟨_, rfl, rfl⟩
  | text => exact Or.inr ⟨_, rfl⟩
  | list => exact Or.inr ⟨_, rfl⟩
  | object => exact Or.inr ⟨_, rfl⟩

/-- The text of a scalar is read as its token, up to what cannot go on with it. The reader of
queries is used for this, since the scalars of JSON are tokens of queries. -/
theorem next?_write (escape : CodePoint → List CodePoint) {v : Value} (h : v.IsTree P) {t : Token}
    (ht : scalarToken? v = some t) {rest : List CodePoint} (hrest : Stops continuesToken rest) :
    next? (write escape v ++ rest) = some (t, rest) := by
  -- Names stand for the constants and numbers for themselves. Strings, lists and objects have no
  -- scalar token.
  cases h with
  | null =>
      cases ht
      exact @next?_name "null" rfl rest (stops_isNameChar hrest)
  | bool flag =>
      cases ht
      cases flag with
      | true => exact @next?_name "true" rfl rest (stops_isNameChar hrest)
      | false => exact @next?_name "false" rfl rest (stops_isNameChar hrest)
  | int n =>
      cases ht
      exact next?_integerText n hrest
  | float hfinite =>
      cases ht
      exact next?_doubleText hfinite hrest
  | text => cases ht
  | list => cases ht
  | object => cases ht

/-- A value with an opening character starts with it. -/
theorem write_of_opening? (escape : CodePoint → List CodePoint) {v : Value} {c : CodePoint}
    (h : opening? v = some c) : ∃ tail, write escape v = c :: tail := by
  cases v with
  | text => cases h; exact ⟨_, rfl⟩
  | list => cases h; exact ⟨_, rfl⟩
  | map => cases h; exact ⟨_, rfl⟩
  | _ => cases h

/-- An opening character does not start the token of a scalar, so a text tells whether its value is
a scalar. -/
theorem next?_ne_of_opening? {v w : Value} {c : CodePoint} {t : Token} (hv : opening? v = some c)
    (hw : scalarToken? w = some t) (tail rest : List CodePoint) :
    next? (c :: tail) ≠ some (t, rest) := by
  obtain ⟨htext, hmark⟩ := scalarToken?_ne hw
  intro hread
  cases v with
  | text =>
      cases hv
      rw [next?_cons rfl (by decide), token?] at hread
      split at hread
      · cases hread
      · obtain ⟨⟨content, after⟩, -, hread⟩ := Option.map_eq_some_iff.mp hread
        exact htext _ (congrArg Prod.fst hread).symm
  -- A bracket and a brace are read as punctuators.
  | list =>
      cases hv
      rw [next?_mark (by decide)] at hread
      exact hmark _ (congrArg Prod.fst (Option.some.inj hread)).symm
  | map =>
      cases hv
      rw [next?_mark (by decide)] at hread
      exact hmark _ (congrArg Prod.fst (Option.some.inj hread)).symm
  | _ => cases hv

/-- Values whose texts start alike have the same opening character, or none. -/
theorem opening?_eq {v w : Value} (hv : v.IsTree P) (hw : w.IsTree P) {rest rest' : List CodePoint}
    (hrest : Stops continuesToken rest) (hrest' : Stops continuesToken rest')
    (heq : write escape v ++ rest = write escape w ++ rest') : opening? v = opening? w := by
  -- Two scalars have none; a scalar and another would be read in two ways; two others share it.
  rcases scalarToken?_or_opening? hv with ⟨t, ht, hnone⟩ | ⟨c, hc⟩
  · rcases scalarToken?_or_opening? hw with ⟨t', -, hnone'⟩ | ⟨c', hc'⟩
    · rw [hnone, hnone']
    · obtain ⟨tail, htext⟩ := write_of_opening? escape hc'
      have hread := next?_write escape hv ht hrest
      rw [heq, htext] at hread
      exact absurd hread (next?_ne_of_opening? hc' ht _ _)
  · rcases scalarToken?_or_opening? hw with ⟨t', ht', -⟩ | ⟨c', hc'⟩
    · obtain ⟨tail, htext⟩ := write_of_opening? escape hc
      have hread := next?_write escape hw ht' hrest'
      rw [← heq, htext] at hread
      exact absurd hread (next?_ne_of_opening? hc ht' _ _)
    · obtain ⟨tail, htext⟩ := write_of_opening? escape hc
      obtain ⟨tail', htext'⟩ := write_of_opening? escape hc'
      rw [htext, htext'] at heq
      rw [hc, hc', (List.cons.inj heq).1]

/-! ### Values -/

/-- The text of a value does not start with what starts no value. -/
theorem exists_cons_write_ne {v : Value} (h : v.IsTree P) {d : CodePoint}
    (hd : startsValue d = false) :
    ∃ c tail, write escape v = c :: tail ∧ c ≠ d := by
  obtain ⟨c, tail, htext, hc⟩ := exists_cons_write escape h
  exact ⟨c, tail, htext, ne_of_startsValue hc hd⟩

/-- The text of a scalar tells it, and where it ends: both texts are read as tokens, and a text has
one next token. -/
theorem write_append_inj_of_scalar {v w : Value} (hv : v.IsTree P) (hw : w.IsTree P) {t : Token}
    (ht : scalarToken? v = some t) (hnone : opening? v = none) {rest rest' : List CodePoint}
    (hrest : Stops continuesToken rest) (hrest' : Stops continuesToken rest')
    (heq : write escape v ++ rest = write escape w ++ rest') : v = w ∧ rest = rest' := by
  have hopening := opening?_eq hv hw hrest hrest' heq
  rcases scalarToken?_or_opening? hw with ⟨t', ht', -⟩ | ⟨c, hc⟩
  · have hread := next?_write escape hv ht hrest
    rw [heq, next?_write escape hw ht' hrest', Option.some.injEq, Prod.mk.injEq] at hread
    obtain ⟨rfl, rfl⟩ := hread
    exact ⟨(scalarOf_scalarToken? ht).symm.trans (scalarOf_scalarToken? ht'), rfl⟩
  · rw [hnone, hc] at hopening
    cases hopening

/-- The text of a value tells it, and where it ends. By induction on the first value; the opening
character gives the kind of the second. -/
theorem write_append_inj (h : IsUndone P escape) {v w : Value} (hv : v.IsTree P) (hw : w.IsTree P)
    {rest rest' : List CodePoint} (hrest : Stops continuesToken rest)
    (hrest' : Stops continuesToken rest')
    (heq : write escape v ++ rest = write escape w ++ rest') : v = w ∧ rest = rest' := by
  induction hv generalizing w rest rest' with
  | null => exact write_append_inj_of_scalar .null hw rfl rfl hrest hrest' heq
  | bool flag => exact write_append_inj_of_scalar (.bool flag) hw rfl rfl hrest hrest' heq
  | int n => exact write_append_inj_of_scalar (.int n) hw rfl rfl hrest hrest' heq
  | float hfinite => exact write_append_inj_of_scalar (.float hfinite) hw rfl rfl hrest hrest' heq
  | text hcontent =>
      have hopening := opening?_eq (.text hcontent) hw hrest hrest' heq
      cases hw with
      | text hcontent' =>
          obtain ⟨htext, hrests⟩ := quotedBy_append_inj h hcontent hcontent' heq
          exact ⟨congrArg Value.text htext, hrests⟩
      | _ => cases hopening
  -- The members of a list are told one after the other, each where the last one ends.
  | @list items hitems ih =>
      have hopening := opening?_eq (.list hitems) hw hrest hrest' heq
      cases hw with
      | @list items' hitems' =>
          rw [write_list, write_list] at heq
          obtain ⟨hitemsEq, hrests⟩ := joined_append_inj [] (write escape) (.char ']')
            (show continuesToken (.char ',') = false from rfl) (by decide) rfl
            (fun v hv => exists_cons_write_ne (hv.elim (hitems v) (hitems' v)) rfl)
            (fun v hv w hw _ _ hrest hrest' heq => ih v hv (hitems' w hw) hrest hrest' heq)
            (by simpa [arrayText] using heq)
          exact ⟨congrArg Value.list hitemsEq, hrests⟩
      | _ => cases hopening
  | @object fields hnames hvalues ih =>
      have hopening := opening?_eq (.object hnames hvalues) hw hrest hrest' heq
      cases hw with
      | @object fields' hnames' hvalues' =>
          rw [write_ofFields, write_ofFields] at heq
          obtain ⟨hfields, hrests⟩ := joined_append_inj [] (writeField escape) (.char '\x7d')
            (show continuesToken (.char ',') = false from rfl) (by decide) rfl
            (fun field _ => ⟨.char '"', _, rfl, by decide⟩)
            (fun field hfield field' hfield' rest rest' hrest hrest' heq => by
              rw [writeField, writeField, List.append_assoc, List.append_assoc] at heq
              obtain ⟨hname, hvalue⟩ :=
                quotedBy_append_inj h (hnames field hfield) (hnames' field' hfield') heq
              obtain ⟨hvalueEq, hrests⟩ := ih field hfield (hvalues' field' hfield') hrest hrest'
                (List.cons.inj hvalue).2
              exact ⟨Prod.ext hname hvalueEq, hrests⟩)
            (by simpa [objectText] using heq)
          exact ⟨congrArg Value.ofFields hfields, hrests⟩
      | _ => cases hopening

/-- **A JSON text tells its value**, for every escaping that can be undone. Nothing is asked of
names, which may even repeat. -/
theorem eq_of_write_eq (h : IsUndone P escape) {v w : Value} (hv : v.IsTree P) (hw : w.IsTree P)
    (heq : write escape v = write escape w) : v = w :=
  (write_append_inj h hv hw Stops.nil Stops.nil (by rw [heq])).1

end FacetSearch.Json
