import FacetSearch.Proofs.Grammar.Written
import FacetSearch.Proofs.Json.Numbers
import FacetSearch.Proofs.Text.Joined
import FacetSearch.Proofs.Text.Shown
import FacetSearch.Value.Key
import FacetSearch.Value.Shown

/-!
# `FacetSearch.Proofs.Value.Shown`: a shown key tells its value

Sets are sorted by what their members are shown as, so it matters whether two members can be shown
alike. Among the keys that are built from scalars, tuples and sets none can: `eq_of_shown_eq`. This
holds for the text that is written down, so two sets that hold the same members in another order are
told apart, too.

What is proved is stronger: the text of a key also tells where it ends (`shown_append_inj`). The
first character tells the kind of the key (`shownKind_eq`). Scalars are read as tokens, with the
negative infinity as the one that is none (`next?_shown`), strings by `shownText_append_inj`, and
the parts of tuples and sets one after the other.
-/

set_option autoImplicit false

namespace FacetSearch.Value

open Grammar

/-- A value that is built from scalars, texts, lists, tuples, mappings and sets alone. The members
of sets and the keys of mappings are keys. -/
inductive IsPlain : Value → Prop
  | null : IsPlain .null
  | bool (flag : Bool) : IsPlain (.bool flag)
  | int (number : Int) : IsPlain (.int number)
  | float (number : Binary64) : IsPlain (.float number)
  | text (content : Text) : IsPlain (.text content)
  | list {items : List Value} (h : ∀ x ∈ items, IsPlain x) : IsPlain (.list items)
  | tuple {items : List Value} (h : ∀ x ∈ items, IsPlain x) : IsPlain (.tuple items)
  | set (frozen : Bool) {items : List Value} (h : ∀ x ∈ items, IsPlain x)
      (hkeys : ∀ x ∈ items, x.isKey = true) : IsPlain (.set frozen items)
  | map {entries : List (Value × Value)} (h : ∀ entry ∈ entries, IsPlain entry.1)
      (hkeys : ∀ entry ∈ entries, entry.1.isKey = true)
      (hvalues : ∀ entry ∈ entries, IsPlain entry.2) : IsPlain (.map entries)

/-- Items that are keys one by one are so together. The definition goes by recursion over the items,
and this gives the predicate of the whole list. -/
theorem areKeys_eq (items : List Value) : areKeys items = items.all isKey := by
  induction items with
  | nil => rfl
  | cons x xs ih => rw [areKeys, ih, List.all_cons]

/-- The items of a tuple that is a key are keys, at every depth. -/
theorem isKey_of_mem_tuple {items : List Value} (h : isKey (.tuple items) = true) {x : Value}
    (hx : x ∈ items) : x.isKey = true := by
  rw [isKey, areKeys_eq] at h
  exact List.all_eq_true.mp h x hx

/-- Items as they are shown, one by one, in their order. -/
theorem shownItems_eq (items : List Value) : shownItems items = items.map shown := by
  induction items with
  | nil => rfl
  | cons x xs ih => exact congrArg (shown x :: ·) ih

/-- A tuple as it is shown, from its items as they are shown. -/
theorem shown_tuple (items : List Value) : shown (.tuple items) = shownTuple (items.map shown) :=
  congrArg shownTuple (shownItems_eq items)

/-- A set as it is shown, with its members in the order that it holds them. No order is put on them,
which is why one set can have many texts. -/
theorem shown_set (frozen : Bool) (items : List Value) :
    shown (.set frozen items) = shownSet frozen (items.map shown) :=
  congrArg (shownSet frozen) (shownItems_eq items)

/-! ### Kinds of keys -/

/-- The kinds of keys that their first character tells. Scalars are one kind, since their texts are
told apart as tokens. -/
inductive ShownKind where
  | scalar
  | text
  | tuple
  | set

/-- The kind of a value. Values that are no keys count as scalars, and nothing is said about
them. -/
def shownKind : Value → ShownKind
  | .text _ => .text
  | .tuple _ => .tuple
  | .set .. => .set
  | _ => .scalar

/-- The kind of the keys that start with a character. No two kinds start alike: a frozen set starts
with its name in lower case, and no scalar does with that letter. -/
def kindOfFirst? (c : Char) : Option ShownKind :=
  if c.isDigit || ['N', 'T', 'F', 'n', 'i', '-'].contains c then some .scalar
  else if c = '\'' ∨ c = '"' then some .text
  else if c = '(' then some .tuple
  else if c = 'f' then some .set
  else none

/-- A number with its sign starts as scalars do, with a digit or the minus sign. -/
theorem kindOfFirst?_signedText (negative : Bool) {p : DecimalParts} (h : p.IsProper) :
    ∃ c tail, (p.signedText negative).map CodePoint.char = .char c :: tail ∧
      kindOfFirst? c = some .scalar := by
  obtain ⟨c, tail, htext, hc⟩ := DecimalParts.exists_cons_signedText negative h
  refine ⟨c, tail.map .char, by rw [htext, List.map_cons], ?_⟩
  rcases hc with rfl | hdigit
  · rfl
  · rw [kindOfFirst?, hdigit, Bool.true_or, if_pos rfl]

/-- A shown string starts with its mark, and both marks are of this kind. -/
theorem kindOfFirst?_shownText (content : Text) :
    ∃ c tail, shownText content = .char c :: tail ∧ kindOfFirst? c = some .text := by
  refine ⟨_, _, rfl, ?_⟩
  rcases isMark_shownMark content.toList with hmark | hmark <;> rw [hmark] <;> rfl

/-- A key is shown with a first character of its kind, so the text of a key is never empty. -/
theorem exists_cons_shown {v : Value} (h : v.IsPlain) (hkey : v.isKey = true) :
    ∃ c tail, v.shown = .char c :: tail ∧ kindOfFirst? c = some v.shownKind := by
  -- Lists and mappings are no keys. All other kinds show their first character, numbers by the way
  -- they are laid out.
  cases h with
  | null => exact ⟨_, _, rfl, rfl⟩
  | bool flag => cases flag <;> exact ⟨_, _, rfl, rfl⟩
  | int n =>
      show ∃ c tail, (integerText n).map CodePoint.char = .char c :: tail ∧ _
      rw [integerText_eq]
      exact kindOfFirst?_signedText _ (DecimalParts.isProper_ofNat _)
  | float number =>
      cases number with
      | finite negative significand exponent hcanonical =>
          show ∃ c tail, ((Binary64.finite negative significand exponent hcanonical).text).map
            CodePoint.char = .char c :: tail ∧ _
          rw [Binary64.text_finite]
          exact kindOfFirst?_signedText _ (Binary64.isProper_magnitudeParts hcanonical)
      | infinite negative => cases negative <;> exact ⟨_, _, rfl, rfl⟩
      | nan => exact ⟨_, _, rfl, rfl⟩
  | text content => exact kindOfFirst?_shownText content
  | list => cases hkey
  | @tuple items =>
      rw [shown_tuple]
      rcases items with _ | ⟨x, _ | ⟨y, others⟩⟩ <;> exact ⟨_, _, rfl, rfl⟩
  | @set frozen items =>
      obtain rfl : frozen = true := hkey
      rw [shown_set]
      cases items with
      | nil => exact ⟨_, _, rfl, rfl⟩
      | cons x others => exact ⟨'f', _, rfl, rfl⟩
  | map => cases hkey

/-- What no key starts with does not start the text of one. This is used for the characters that
close tuples and sets. -/
theorem exists_cons_shown_ne {v : Value} (h : v.IsPlain) (hkey : v.isKey = true) {d : Char}
    (hd : kindOfFirst? d = none) : ∃ c tail, v.shown = c :: tail ∧ c ≠ .char d := by
  obtain ⟨c, tail, htext, hc⟩ := exists_cons_shown h hkey
  refine ⟨_, tail, htext, fun heq => ?_⟩
  obtain rfl := CodePoint.char.inj heq
  rw [hd] at hc
  cases hc

/-- Keys whose texts start alike are of one kind, whatever stands behind the texts. -/
theorem shownKind_eq {v w : Value} (hv : v.IsPlain) (hkeyv : v.isKey = true) (hw : w.IsPlain)
    (hkeyw : w.isKey = true) {rest rest' : List CodePoint}
    (heq : v.shown ++ rest = w.shown ++ rest') : v.shownKind = w.shownKind := by
  obtain ⟨c, tail, htext, hc⟩ := exists_cons_shown hv hkeyv
  obtain ⟨c', tail', htext', hc'⟩ := exists_cons_shown hw hkeyw
  rw [htext, htext'] at heq
  rw [CodePoint.char.inj (List.cons.inj heq).1, hc'] at hc
  exact (Option.some.inj hc).symm

/-! ### Scalars -/

/-- The token that the text of a scalar is. The negative infinity is the only scalar without one,
because a sign must stand in front of a digit. -/
def shownToken? : Value → Option Token
  | .null => some (.name "None")
  | .bool flag => some (.name (if flag then "True" else "False"))
  | .int number => some (.int number)
  | .float .nan => some (.name "nan")
  | .float (.infinite negative) => if negative then none else some (.name "inf")
  | .float number => some (.float number)
  | _ => none

/-- The scalar of a token, and of none. It goes back from the token to the value, so that equal
tokens give equal scalars. -/
def ofShownToken : Option Token → Value
  | none => .float (.infinite true)
  | some (.name word) =>
      if word = "None" then .null
      else if word = "nan" then .float .nan
      else if word = "inf" then .float (.infinite false)
      else .bool (word == "True")
  | some (.int number) => .int number
  | some (.float number) => .float number
  | some _ => .null

/-- A scalar is told by its token. -/
theorem ofShownToken_shownToken? {v : Value} (h : v.IsPlain) (hkey : v.isKey = true)
    (hkind : v.shownKind = .scalar) : ofShownToken (shownToken? v) = v := by
  -- Scalars give their tokens, which give them back. Lists and mappings are no keys, and what is
  -- left is of another kind.
  cases h with
  | null => rfl
  | bool flag => cases flag <;> rfl
  | int => rfl
  | float number =>
      cases number with
      | finite => rfl
      | infinite negative => cases negative <;> rfl
      | nan => rfl
  | list => cases hkey
  | map => cases hkey
  | _ => cases hkind

/-- The text of a scalar is read as its token, up to what cannot go on with it. So the text ends
where the token does. -/
theorem next?_shown {v : Value} (h : v.IsPlain) (hkey : v.isKey = true)
    (hkind : v.shownKind = .scalar) {rest : List CodePoint} (hrest : Stops continuesToken rest) :
    next? (v.shown ++ rest) = (shownToken? v).map fun token => (token, rest) := by
  have hname : ∀ name : Text, isName name = true →
      next? (name.toList ++ rest) = some (.name name, rest) := fun _ hname =>
    next?_name hname (stops_isNameChar hrest)
  cases h with
  | null => exact hname "None" rfl
  | bool flag =>
      cases flag with
      | true => exact hname "True" rfl
      | false => exact hname "False" rfl
  | int n => exact next?_integerText n hrest
  | float number =>
      cases number with
      | finite negative significand exponent hcanonical =>
          exact @next?_doubleText (.finite negative significand exponent hcanonical) rfl rest hrest
      | infinite negative =>
          cases negative with
          -- A sign must stand in front of a digit.
          | true => rfl
          | false => exact hname "inf" rfl
      | nan => exact hname "nan" rfl
  | list => cases hkey
  | map => cases hkey
  | _ => cases hkind

/-- The text of a scalar tells it, and where it ends. Both texts are read by one reader, which can
give one token only. -/
theorem shown_append_inj_of_scalar {v w : Value} (hv : v.IsPlain) (hkeyv : v.isKey = true)
    (hw : w.IsPlain) (hkeyw : w.isKey = true) (hkind : v.shownKind = .scalar)
    {rest rest' : List CodePoint} (hrest : Stops continuesToken rest)
    (hrest' : Stops continuesToken rest') (heq : v.shown ++ rest = w.shown ++ rest') :
    v = w ∧ rest = rest' := by
  have hkind' : w.shownKind = .scalar := (shownKind_eq hv hkeyv hw hkeyw heq).symm.trans hkind
  have hread := next?_shown hv hkeyv hkind hrest
  rw [heq, next?_shown hw hkeyw hkind' hrest'] at hread
  -- Equal texts give one reading, and a reading without a token is the one of the negative infinity
  -- on both sides.
  have htoken : shownToken? w = shownToken? v := by
    cases htoken : shownToken? v with
    | none => exact Option.map_eq_none_iff.mp (hread.trans (by rw [htoken, Option.map_none]))
    | some token =>
        rw [htoken] at hread
        obtain ⟨token', htoken', hpair⟩ := Option.map_eq_some_iff.mp hread
        rw [htoken', (Prod.mk.inj hpair).1]
  obtain rfl : v = w := by
    rw [← ofShownToken_shownToken? hv hkeyv hkind, ← htoken,
      ofShownToken_shownToken? hw hkeyw hkind']
  exact ⟨rfl, List.append_cancel_left heq⟩

/-! ### Tuples and sets -/

/-- The first piece of a tuple is followed by a comma and the closing parenthesis when it stands
alone, and otherwise by the other pieces. -/
theorem shownTuple_cons_append (piece : List CodePoint) (pieces : List (List CodePoint))
    (rest : List CodePoint) :
    shownTuple (piece :: pieces) ++ rest
      = .char '(' :: (piece ++ .char ',' :: (if pieces = [] then .char ')' :: rest
          else .char ' ' :: (commaJoined pieces ++ .char ')' :: rest))) := by
  cases pieces with
  | nil => simp [shownTuple]
  | cons next others => simp [shownTuple, commaJoined, joined]

/-- A tuple is told by the texts of its items, as soon as each of them tells its item. A tuple of
one item has a comma behind it, so it is not taken for the start of a longer one. -/
theorem shownTuple_append_inj {xs ys : List Value}
    (hne : ∀ x, x ∈ xs ∨ x ∈ ys → ∃ c tail, x.shown = c :: tail ∧ c ≠ .char ')')
    (hinj : ∀ x ∈ xs, ∀ y ∈ ys, ∀ rest rest', Stops continuesToken rest →
      Stops continuesToken rest' → x.shown ++ rest = y.shown ++ rest' → x = y ∧ rest = rest')
    {rest rest' : List CodePoint}
    (heq : shownTuple (xs.map shown) ++ rest = shownTuple (ys.map shown) ++ rest') :
    xs = ys ∧ rest = rest' := by
  -- The empty tuple closes at once, and no item starts with the closing parenthesis.
  cases xs with
  | nil =>
      cases ys with
      | nil => exact ⟨rfl, (List.cons.inj (List.cons.inj heq).2).2⟩
      | cons y ys =>
          obtain ⟨c, tail, htext, hc⟩ := hne y (Or.inr List.mem_cons_self)
          rw [List.map_cons, shownTuple_cons_append, htext] at heq
          exact absurd (List.cons.inj (List.cons.inj heq).2).1.symm hc
  | cons x xs =>
      cases ys with
      | nil =>
          obtain ⟨c, tail, htext, hc⟩ := hne x (Or.inl List.mem_cons_self)
          rw [List.map_cons, shownTuple_cons_append, htext] at heq
          exact absurd (List.cons.inj (List.cons.inj heq).2).1 hc
      | cons y ys =>
          rw [List.map_cons, List.map_cons, shownTuple_cons_append, shownTuple_cons_append] at heq
          obtain ⟨rfl, hbehind⟩ := hinj x List.mem_cons_self y List.mem_cons_self _ _
            (stops_cons (by decide) _) (stops_cons (by decide) _) (List.cons.inj heq).2
          have hothers := (List.cons.inj hbehind).2
          -- Behind the comma stands the closing parenthesis, or a blank and the other items.
          cases xs with
          | nil =>
              cases ys with
              | nil => exact ⟨rfl, (List.cons.inj hothers).2⟩
              | cons y' ys => exact absurd (List.cons.inj hothers).1 (by decide)
          | cons x' xs =>
              cases ys with
              | nil => exact absurd (List.cons.inj hothers).1 (by decide)
              | cons y' ys =>
                  obtain ⟨hitems, hrest⟩ := joined_append_inj [CodePoint.char ' '] shown (.char ')')
                    (show continuesToken (.char ',') = false from rfl) (by decide) rfl
                    (fun z hz =>
                      hne z (hz.imp (List.mem_cons_of_mem _) (List.mem_cons_of_mem _)))
                    (fun z hz z' hz' => hinj z (List.mem_cons_of_mem _ hz) z'
                      (List.mem_cons_of_mem _ hz'))
                    (List.cons.inj hothers).2
                  exact ⟨congrArg (x :: ·) hitems, hrest⟩

/-- A frozen set is told by the texts of its members, as soon as each of them tells its member. The
empty set is written without braces. -/
theorem shownSet_append_inj {xs ys : List Value}
    (hne : ∀ x, x ∈ xs ∨ x ∈ ys → ∃ c tail, x.shown = c :: tail ∧ c ≠ .char '\x7d')
    (hinj : ∀ x ∈ xs, ∀ y ∈ ys, ∀ rest rest', Stops continuesToken rest →
      Stops continuesToken rest' → x.shown ++ rest = y.shown ++ rest' → x = y ∧ rest = rest')
    {rest rest' : List CodePoint}
    (heq : shownSet true (xs.map shown) ++ rest = shownSet true (ys.map shown) ++ rest') :
    xs = ys ∧ rest = rest' := by
  -- Both forms start with the name of the class and the opening parenthesis. What comes next tells
  -- whether there are members.
  have hnil (after : List CodePoint) :
      shownSet true [] ++ after = ("frozenset(" : Text).toList ++ .char ')' :: after := rfl
  have hcons (z : Value) (zs : List Value) (after : List CodePoint) :
      shownSet true ((z :: zs).map shown) ++ after
        = ("frozenset(" : Text).toList ++ .char '\x7b' ::
          (commaJoined ((z :: zs).map shown) ++ .char '\x7d' :: .char ')' :: after) := by
    simp [shownSet]
  cases xs with
  | nil =>
      cases ys with
      | nil => exact ⟨rfl, List.append_cancel_left heq⟩
      | cons y ys =>
          rw [List.map_nil, hnil, hcons] at heq
          exact absurd (List.cons.inj (List.append_cancel_left heq)).1 (by decide)
  | cons x xs =>
      cases ys with
      | nil =>
          rw [List.map_nil, hnil, hcons] at heq
          exact absurd (List.cons.inj (List.append_cancel_left heq)).1 (by decide)
      | cons y ys =>
          rw [hcons, hcons] at heq
          obtain ⟨hitems, hrest⟩ := joined_append_inj [CodePoint.char ' '] shown (.char '\x7d')
            (show continuesToken (.char ',') = false from rfl) (by decide) rfl hne hinj
            (List.cons.inj (List.append_cancel_left heq)).2
          exact ⟨hitems, (List.cons.inj hrest).2⟩

/-! ### Keys -/

/-- The text of a key tells it, and where it ends. By induction on one of the keys: each part of a
tuple or a set tells itself, and its end is where the next one starts. -/
theorem shown_append_inj {v w : Value} (hv : v.IsPlain) (hkeyv : v.isKey = true) (hw : w.IsPlain)
    (hkeyw : w.isKey = true) {rest rest' : List CodePoint} (hrest : Stops continuesToken rest)
    (hrest' : Stops continuesToken rest') (heq : v.shown ++ rest = w.shown ++ rest') :
    v = w ∧ rest = rest' := by
  have hkind := shownKind_eq hv hkeyv hw hkeyw heq
  -- The other key is free, since the parts are compared with whatever parts it has.
  induction hv generalizing w rest rest' with
  | null => exact shown_append_inj_of_scalar .null hkeyv hw hkeyw rfl hrest hrest' heq
  | bool flag => exact shown_append_inj_of_scalar (.bool flag) hkeyv hw hkeyw rfl hrest hrest' heq
  | int n => exact shown_append_inj_of_scalar (.int n) hkeyv hw hkeyw rfl hrest hrest' heq
  | float x => exact shown_append_inj_of_scalar (.float x) hkeyv hw hkeyw rfl hrest hrest' heq
  | text content =>
      cases hw with
      | text content' =>
          obtain ⟨rfl, hrests⟩ := shownText_append_inj heq
          exact ⟨rfl, hrests⟩
      | _ => cases hkind
  | list => cases hkeyv
  | @tuple items h ih =>
      cases hw with
      | @tuple items' h' =>
          have hitems : ∀ x ∈ items, x.isKey = true := fun _ => isKey_of_mem_tuple hkeyv
          have hitems' : ∀ x ∈ items', x.isKey = true := fun _ => isKey_of_mem_tuple hkeyw
          rw [shown_tuple, shown_tuple] at heq
          obtain ⟨rfl, hrests⟩ := shownTuple_append_inj
            (fun x hx => hx.elim (fun hx => exists_cons_shown_ne (h x hx) (hitems x hx) rfl)
              fun hx => exists_cons_shown_ne (h' x hx) (hitems' x hx) rfl)
            (fun x hx y hy _ _ hrest hrest' heq => ih x hx (hitems x hx) (h' y hy) (hitems' y hy)
              hrest hrest' heq (shownKind_eq (h x hx) (hitems x hx) (h' y hy) (hitems' y hy) heq))
            heq
          exact ⟨rfl, hrests⟩
      | list => cases hkeyw
      | map => cases hkeyw
      | _ => cases hkind
  | @set frozen items h hkeys ih =>
      cases hw with
      | @set frozen' items' h' hkeys' =>
          obtain rfl : frozen = true := hkeyv
          obtain rfl : frozen' = true := hkeyw
          rw [shown_set, shown_set] at heq
          obtain ⟨rfl, hrests⟩ := shownSet_append_inj
            (fun x hx => hx.elim (fun hx => exists_cons_shown_ne (h x hx) (hkeys x hx) rfl)
              fun hx => exists_cons_shown_ne (h' x hx) (hkeys' x hx) rfl)
            (fun x hx y hy _ _ hrest hrest' heq => ih x hx (hkeys x hx) (h' y hy) (hkeys' y hy)
              hrest hrest' heq (shownKind_eq (h x hx) (hkeys x hx) (h' y hy) (hkeys' y hy) heq))
            heq
          exact ⟨rfl, hrests⟩
      | list => cases hkeyw
      | map => cases hkeyw
      | _ => cases hkind
  | map => cases hkeyv

/-- **A shown key tells its value**: two keys with one text are one key. -/
theorem eq_of_shown_eq {v w : Value} (hv : v.IsPlain) (hkeyv : v.isKey = true) (hw : w.IsPlain)
    (hkeyw : w.isKey = true) (heq : v.shown = w.shown) : v = w :=
  (shown_append_inj hv hkeyv hw hkeyw Stops.nil Stops.nil (by rw [heq])).1

end FacetSearch.Value
