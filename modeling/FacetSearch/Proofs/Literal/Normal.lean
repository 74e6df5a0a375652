import FacetSearch.Proofs.Literal.Meaning

/-!
# `FacetSearch.Proofs.Literal.Normal`: what a text says of its literal

Numbers keep their value in a query and not their spelling. `Literal.normal` says what that leaves
of a literal: a number that is not finite becomes null and a whole double the integer that it is. A
dimension, which is a text, becomes the text of its name. Everything else stays.

The main fact `unambiguous` has two halves, for literals of the six kinds whose objects name their
fields by names:

* a text is read back to the normal form of the literal that it was written from, and nothing of
  the text is left over (`readValue?_write` and `literal?_term`);
* two literals have one text exactly when they have one normal form. From left to right this is the
  first half, and from right to left the writer looks at no more than the normal form
  (`write_normal`).

Integers are assumed to be short enough to print: `integerText` writes every one.
-/

set_option autoImplicit false

namespace FacetSearch

open Grammar

namespace Literal

mutual

/-- The normal form of a literal: a number that is not finite is null, a whole double is the integer
that it is, and a dimension is the text of its name. -/
def normal : Literal → Literal
  | .null => .null
  | .text content => .text content
  | .dimension d => .text d.text
  | .int number => .int number
  | .float number =>
      if number.isFinite then
        match number.integer? with
        | some n => .int n
        | none => .float number
      else .null
  | .numericFlag flag => .numericFlag flag
  | .bool flag => .bool flag
  | .list items => .list (normals items)
  | .object fields => .object (normalFields fields)
  | .foreign value => .foreign value

/-- The normal forms of the items of a list. -/
def normals : List Literal → List Literal
  | [] => []
  | x :: xs => normal x :: normals xs

/-- The normal forms of the fields of an object, under their names. -/
def normalFields : List (Text × Literal) → List (Text × Literal)
  | [] => []
  | (name, x) :: rest => (name, normal x) :: normalFields rest

end

/-- A literal of one of the six kinds (null, a text, a number, a flag, a list or an object) in which
the fields of objects are named by names. -/
inductive IsNamed : Literal → Prop
  | null : IsNamed .null
  | text (content : Text) : IsNamed (.text content)
  | dimension (d : Dimension) : IsNamed (.dimension d)
  | int (number : Int) : IsNamed (.int number)
  | float (number : Binary64) : IsNamed (.float number)
  | bool (flag : Bool) : IsNamed (.bool flag)
  | list {items : List Literal} (h : ∀ x ∈ items, IsNamed x) : IsNamed (.list items)
  | object {fields : List (Text × Literal)} (hnames : ∀ field ∈ fields, isName field.1 = true)
      (hvalues : ∀ field ∈ fields, IsNamed field.2) : IsNamed (.object fields)

end Literal

namespace Grammar.Term

mutual

/-- The literal that a value of a query is. A literal holds no variable and no name of an
enumeration. -/
def literal? : Term → Option Literal
  | .reference _ => none
  | .int number => some (.int number)
  | .float number => some (.float number)
  | .text content => some (.text content)
  | .bool flag => some (.bool flag)
  | .null => some .null
  | .member _ => none
  | .list items => (literals? items).map .list
  | .object fields => (literalFields? fields).map .object

/-- The literals that the items of a list are. -/
def literals? : List Term → Option (List Literal)
  | [] => some []
  | x :: xs => do return (← literal? x) :: (← literals? xs)

/-- The literals that the fields of an object are, under their names. -/
def literalFields? : List (Text × Term) → Option (List (Text × Literal))
  | [] => some []
  | (name, x) :: rest => do return (name, ← literal? x) :: (← literalFields? rest)

end

/-- Items that are literals one by one are so together, by induction on the items. -/
theorem literals?_map {items : List Literal} {item : Literal → Term} {read : Literal → Literal}
    (h : ∀ x ∈ items, (item x).literal? = some (read x)) :
    literals? (items.map item) = some (items.map read) := by
  induction items with
  | nil => rfl
  | cons x xs ih =>
      rw [List.map_cons, literals?, h x List.mem_cons_self,
        ih fun y hy => h y (List.mem_cons_of_mem _ hy)]
      rfl

/-- Fields that are literals one by one are so together. -/
theorem literalFields?_map {fields : List (Text × Literal)} {item : Literal → Term}
    {read : Literal → Literal}
    (h : ∀ field ∈ fields, (item field.2).literal? = some (read field.2)) :
    literalFields? (fields.map fun field => (field.1, item field.2))
      = some (fields.map fun field => (field.1, read field.2)) := by
  induction fields with
  | nil => rfl
  | cons field rest ih =>
      rw [List.map_cons, literalFields?, h field List.mem_cons_self,
        ih fun y hy => h y (List.mem_cons_of_mem _ hy)]
      rfl

end Grammar.Term

namespace Literal

/-- The normal forms of items, one by one. -/
theorem normals_eq (items : List Literal) : normals items = items.map normal := by
  induction items with
  | nil => rfl
  | cons x xs ih => rw [normals, ih, List.map_cons]

/-- The normal forms of fields, one by one. -/
theorem normalFields_eq (fields : List (Text × Literal)) :
    normalFields fields = fields.map fun field => (field.1, field.2.normal) := by
  induction fields with
  | nil => rfl
  | cons field rest ih => rw [normalFields, ih, List.map_cons]

/-- The text of a number is that of its normal form: the writer makes the same two distinctions. -/
theorem write_normal_float (number : Binary64) :
    (float number).normal.write = (float number).write := by
  rw [normal, write, numberText]
  split
  · rename_i hfinite
    cases hinteger : number.integer? with
    | some n => rfl
    | none =>
        show (float number).write = number.text.map .char
        rw [write, numberText, if_pos hfinite, hinteger]
  · rfl

mutual

/-- The writer looks at no more than the normal form. By induction on the literal, together with the
items of lists and the fields of objects. -/
theorem write_normal : ∀ x : Literal, x.normal.write = x.write
  | .null => rfl
  | .text _ => rfl
  | .dimension _ => rfl
  | .int _ => rfl
  | .float number => write_normal_float number
  | .numericFlag _ => rfl
  | .bool _ => rfl
  | .list items => by rw [normal, write, write, writeItems_normals items]
  | .object fields => by rw [normal, write, write, writeFields_normalFields fields]
  | .foreign _ => rfl

/-- The texts of items are those of their normal forms. -/
theorem writeItems_normals : ∀ xs : List Literal, writeItems (normals xs) = writeItems xs
  | [] => rfl
  | x :: xs => by rw [normals, writeItems, writeItems, write_normal x, writeItems_normals xs]

/-- The texts of fields are those of their normal forms. -/
theorem writeFields_normalFields : ∀ fields : List (Text × Literal),
    writeFields (normalFields fields) = writeFields fields
  | [] => rfl
  | (name, x) :: rest => by
      rw [normalFields, writeFields, writeFields, write_normal x, writeFields_normalFields rest]

end

mutual

/-- A readable literal has no foreign leaf, so rendering it does not fail. -/
theorem foreign?_of_isReadable : ∀ x : Literal, x.isReadable = true → x.foreign? = none
  | .null, _ => rfl
  | .text _, _ => rfl
  | .dimension _, _ => rfl
  | .int _, _ => rfl
  | .float _, _ => rfl
  | .numericFlag _, _ => rfl
  | .bool _, _ => rfl
  | .list items, h => foreignItem?_of_areReadable items h
  | .object fields, h => foreignField?_of_areFieldsReadable fields h
  | .foreign _, h => absurd h Bool.false_ne_true

/-- Readable items have no foreign leaf. -/
theorem foreignItem?_of_areReadable : ∀ xs : List Literal, areReadable xs = true →
    foreignItem? xs = none
  | [], _ => rfl
  | x :: xs, h => by
      rw [areReadable, Bool.and_eq_true] at h
      rw [foreignItem?, foreign?_of_isReadable x h.1, foreignItem?_of_areReadable xs h.2]
      rfl

/-- Readable fields have no foreign leaf. -/
theorem foreignField?_of_areFieldsReadable : ∀ fields : List (Text × Literal),
    areFieldsReadable fields = true → foreignField? fields = none
  | [], _ => rfl
  | (name, x) :: rest, h => by
      rw [areFieldsReadable, Bool.and_eq_true, Bool.and_eq_true] at h
      rw [foreignField?, foreign?_of_isReadable x h.1.2,
        foreignField?_of_areFieldsReadable rest h.2]
      rfl

end

/-- What a number stands for is its normal form: a whole number if it is one, null if it is not
finite, and itself otherwise. -/
theorem literal?_term_float (number : Binary64) :
    (float number).term.literal? = some (float number).normal := by
  rw [term, normal]
  -- Finite or not, and if it is, whole or not.
  split
  · cases number.integer? with
    | some n => rfl
    | none => rfl
  · rfl

namespace IsNamed

variable {x y : Literal}

/-- What a literal of the six kinds stands for is its normal form. Together with the reader this
says what a text tells of the literal. -/
theorem literal?_term (h : x.IsNamed) : x.term.literal? = some x.normal := by
  induction h with
  | null => rfl
  | text => rfl
  | dimension => rfl
  | int => rfl
  | float number => exact literal?_term_float number
  | bool => rfl
  | list _ ih =>
      rw [term, terms_eq, Term.literal?, Term.literals?_map ih, normal, normals_eq]
      rfl
  | object _ _ ih =>
      rw [term, fieldTerms_eq, Term.literal?, Term.literalFields?_map ih, normal, normalFields_eq]
      rfl

/-- A literal of the six kinds can be read back, as far as reading it gives something. What it gives
is the normal form. -/
theorem isReadable (h : x.IsNamed) : x.isReadable = true := by
  induction h with
  | list _ ih =>
      rw [Literal.isReadable, areReadable_eq]
      exact List.all_eq_true.mpr ih
  | object hnames _ ih =>
      rw [Literal.isReadable, areFieldsReadable_eq]
      refine List.all_eq_true.mpr fun field hfield => ?_
      rw [hnames field hfield, ih field hfield]
      rfl
  | _ => rfl

/-- The text of a literal of the six kinds: rendering does not fail, since nothing in it is
foreign. -/
theorem render_eq (h : x.IsNamed) : x.render = .ok (.ofList x.write) := by
  rw [render, foreign?_of_isReadable x h.isReadable]

/-- The text of a literal of the six kinds is read back to its normal form. So the text tells the
normal form, and no more. -/
theorem readValue?_write (h : x.IsNamed) :
    (readValue? x.write).bind Term.literal? = some x.normal := by
  rw [Grammar.readValue?_write h.isReadable, Option.bind_some, h.literal?_term]

end IsNamed

/-- **Written literals are unambiguous.** A literal of the six kinds whose objects name their fields
by names has a text, and reading this text as a value of a query gives the normal form of the
literal with nothing left over. So two such literals have the same text exactly when they have the
same normal form. -/
theorem unambiguous {x : Literal} (h : x.IsNamed) :
    (∃ text, x.render = .ok text ∧
      (readValue? text.toList).bind Term.literal? = some x.normal) ∧
    ∀ y : Literal, y.IsNamed → (x.render = y.render ↔ x.normal = y.normal) := by
  refine ⟨⟨_, h.render_eq, ?_⟩, fun y hy => ?_⟩
  · exact h.readValue?_write
  · rw [h.render_eq, hy.render_eq, Except.ok.injEq, Text.ofList.injEq]
    constructor
    -- The text is read to both normal forms.
    · intro htext
      have hx := h.readValue?_write
      rw [htext, hy.readValue?_write] at hx
      exact (Option.some.inj hx).symm
    · intro hnormal
      rw [← write_normal x, hnormal, write_normal y]

/-- An object with a whole double, not-a-number, a text that has to be escaped, a dimension and the
double one half. -/
def spelled : Literal :=
  .object [("a", .list [.float (.finite false (twoTo 52) (-51) (by decide)), .float .nan,
      .text "q\"\\\n", .dimension .types]),
    ("b_1", .object []), ("c", .float (.finite false (twoTo 52) (-53) (by decide)))]

/-- The normal form of `spelled`. -/
def spelledNormal : Literal :=
  .object [("a", .list [.int 2, .null, .text "q\"\\\n", .text "types"]),
    ("b_1", .object []), ("c", .float (.finite false (twoTo 52) (-53) (by decide)))]

/-- The main fact at `spelled`: its text is read to `spelledNormal`, which has the same text. -/
theorem unambiguous_spelled :
    (∃ text, spelled.render = .ok text ∧
      (readValue? text.toList).bind Term.literal? = some spelledNormal) ∧
    spelled.render = spelledNormal.render := by
  -- The literals are named part by part, from the leaves.
  have hhalf : IsNamed (.float (.finite false (twoTo 52) (-53) (by decide))) := .float _
  have hspelled : spelled.IsNamed := by
    refine .object (by decide) (List.forall_mem_cons.mpr ⟨.list ?_, ?_⟩)
    · exact List.forall_mem_cons.mpr ⟨.float _, List.forall_mem_cons.mpr ⟨.float _,
        List.forall_mem_cons.mpr ⟨.text _, List.forall_mem_cons.mpr ⟨.dimension _,
          List.forall_mem_nil _⟩⟩⟩⟩
    · exact List.forall_mem_cons.mpr ⟨.object (List.forall_mem_nil _) (List.forall_mem_nil _),
        List.forall_mem_cons.mpr ⟨hhalf, List.forall_mem_nil _⟩⟩
  have hnormal : spelledNormal.IsNamed := by
    refine .object (by decide) (List.forall_mem_cons.mpr ⟨.list ?_, ?_⟩)
    · exact List.forall_mem_cons.mpr ⟨.int _, List.forall_mem_cons.mpr ⟨.null,
        List.forall_mem_cons.mpr ⟨.text _, List.forall_mem_cons.mpr ⟨.text _,
          List.forall_mem_nil _⟩⟩⟩⟩
    · exact List.forall_mem_cons.mpr ⟨.object (List.forall_mem_nil _) (List.forall_mem_nil _),
        List.forall_mem_cons.mpr ⟨hhalf, List.forall_mem_nil _⟩⟩
  obtain ⟨hread, hsame⟩ := unambiguous hspelled
  exact ⟨hread, (hsame spelledNormal hnormal).mpr rfl⟩

end Literal

end FacetSearch
