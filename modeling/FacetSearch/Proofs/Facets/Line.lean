import FacetSearch.Proofs.Facets.Aliases
import FacetSearch.Proofs.Literal.Lines
import FacetSearch.Proofs.Selection.Expressible

/-!
# `FacetSearch.Proofs.Facets.Line`: a line of a facet query is one field

`countField` is the field that counts under an alias: the aggregate field with the where clause as
its only argument, and the count as its only selection. The main fact `readField?_line` says that
the line written for an expressible where mapping is read as this field, with the value that the
where mapping is written as.

Every field of a query has a name as its alias and an expressible where mapping, when the chosen
values are expressible (`isExpressible_fields`).
-/

set_option autoImplicit false

namespace FacetSearch

open Grammar

namespace FacetQuery

/-! ### Where mappings of fields -/

/-- The where mapping of an option is expressible when the chosen values are. Its own predicate
holds a label, which is a text. -/
theorem isExpressible_optionExpr {s : Selection} (h : ∀ d, ∀ v ∈ s.values d, v.IsExpressible)
    (d : Dimension) (row : Choice) : (optionExpr s d row).toWhere.IsExpressible := by
  have hothers : ∀ e, ∀ v ∈ (s.without d).values e, v.IsExpressible :=
    Selection.forall_values_excluding h (some d)
  refine Expr.isExpressible_ofList fun e he => ?_
  -- A part is a condition of the selection without the dimension, or the id of the option.
  rcases List.mem_append.mp he with hmem | hmem
  · exact Selection.isExpressible_conditions hothers e hmem
  · rw [List.mem_singleton.mp hmem]
    exact d.isExpressible_isEqual (.text row.id)

/-- Every field of a query has a name as its alias and an expressible where mapping. These are the
two things that the reader of a line asks for. -/
theorem isExpressible_fields {s : Selection} (h : ∀ d, ∀ v ∈ s.values d, v.IsExpressible)
    (options : FacetOptions) :
    ∀ field ∈ fields s options, isName field.1 = true ∧ field.2.toWhere.IsExpressible := by
  intro field hfield
  rw [fields, List.mem_append, List.mem_flatMap, List.mem_singleton] at hfield
  rcases hfield with ⟨d, -, hd⟩ | rfl
  · obtain ⟨position, hlt, rfl⟩ := List.mem_mapIdx.mp hd
    exact ⟨d.isName_aliasAt position, isExpressible_optionExpr h d _⟩
  · exact ⟨(by decide : isName totalAlias = true), Selection.isExpressible_toExpr h⟩

/-! ### Reading a line -/

/-- The field that counts under an alias: what a server reads a line as. The condition is the value
of the where clause. -/
def countField (aliasName aggregateField : Text) (condition : Term) : Field :=
  .mk (some aliasName) aggregateField [("filter_input", .object [("where", condition)])]
    [.mk none "_count" [] []]

/-- The literal of the argument that holds a where clause. -/
def argument (e : Expr) : Literal := .object [("where", Literal.ofValue e.toWhere)]

/-- The text of the argument is the where clause in braces, after its name. The compiler writes
these braces itself, so this is where its text meets that of the literals. -/
theorem write_argument (e : Expr) :
    (argument e).write = ("\x7b where: " : Text).toList ++ e.whereText.toList
      ++ (" \x7d" : Text).toList := by
  have hclause : e.whereText.toList = (Literal.ofValue e.toWhere).write := rfl
  rw [hclause]
  show CodePoint.char '\x7b' :: .char ' ' :: ((("where" : Text).toList ++ .char ':' :: .char ' ' ::
    (Literal.ofValue e.toWhere).write) ++ [.char ' ', .char '\x7d']) = _
  rfl

/-- The text of the arguments of a line, with what follows it. Its blanks mean nothing to the
reader. -/
def argumentsText (e : Expr) (rest : List CodePoint) : List CodePoint :=
  .char '(' :: (("filter_input" : Text).toList ++ .char ':' :: .char ' ' ::
    ((argument e).write ++ .char ')' :: rest))

/-- The text of the selection of a line, inside its opening brace. -/
def countText : List CodePoint := (" _count \x7d" : Text).toList

/-- The code points of a line, grouped as the reader takes them: the alias, the aggregate field, the
arguments and the selection of the count. -/
theorem toList_line (names : FacetNames) (field : Text × Expr) :
    (line names field).toList
      = .char ' ' :: .char ' ' :: (field.1.toList ++ .char ':' :: .char ' ' ::
        (names.aggregateField.toList ++
          argumentsText field.2 (.char ' ' :: .char '\x7b' :: countText))) := by
  rw [line, argumentsText, write_argument]
  simp only [Text.toList_append, List.append_assoc]
  rfl

variable {fuel : Nat} {e : Expr}

/-- The selection of the count is read. -/
theorem selections?_count (fuel : Nat) :
    selections? (fuel + 2) countText = some ([.mk none "_count" [] []], []) := by
  let close := (" \x7d" : Text).toList
  have hname : name? countText = some (("_count" : Text), close) :=
    (name?_congr (next?_space _)).trans
      (name?_append (by decide : isName "_count" = true) (Stops.cons rfl _))
  have haliased : aliased? countText = some (none, ("_count" : Text), close) := by
    rw [aliased?, hname]
    rfl
  have hfield : field? (fuel + 1) countText = some (.mk none "_count" [] [], close) :=
    field?_leaf haliased rfl rfl
  exact selections?_cons rfl hfield (selections?_nil fuel rfl)

/-- The argument of a line is read, with what follows it left over. The fuel only has to exceed the
length of the argument, since each token costs one. -/
theorem arguments?_argument (hreadable : (Literal.ofValue e.toWhere).isReadable = true)
    (hfuel : (argument e).write.length + 1 < fuel) (rest : List CodePoint) :
    arguments? fuel (argumentsText e rest)
      = some ([(("filter_input" : Text), (argument e).term)], rest) := by
  obtain ⟨n, rfl⟩ : ∃ n, fuel = n + 1 + 1 := ⟨fuel - 2, by omega⟩
  have hargument : (argument e).isReadable = true := by
    show (isName "where" && (Literal.ofValue e.toWhere).isReadable && true) = true
    rw [hreadable]
    decide
  let written := (argument e).write ++ .char ')' :: rest
  let named := ("filter_input" : Text).toList ++ .char ':' :: .char ' ' :: written
  -- The reader goes along: the name of the argument, its colon, its value, the closing mark.
  have hname : name? named = some (("filter_input" : Text), .char ':' :: .char ' ' :: written) :=
    name?_append (by decide) (Stops.cons rfl _)
  have hvalue : value? (n + 1) (.char ' ' :: written)
      = some ((argument e).term, .char ')' :: rest) :=
    (value?_congr (next?_space _) _).trans
      (value?_write _ hargument (by omega) (stops_cons (by decide) rest))
  have hentries : entries? (n + 1 + 1) ')' named
      = some ([(("filter_input" : Text), (argument e).term)], rest) :=
    entries?_cons hname (after?_mark (by decide) _) hvalue
      (entries?_nil n (after?_mark (by decide) rest))
  rw [argumentsText, arguments?, after?_mark (by decide)]
  simp only [Option.bind_eq_bind]
  rw [hentries]
  rfl

/-- **A line is read as the field that it was written for.** -/
theorem readField?_line (names : FacetNames) (haggregate : isName names.aggregateField = true)
    {field : Text × Expr} (halias : isName field.1 = true)
    (hwhere : field.2.toWhere.IsExpressible) :
    readField? (line names field).toList
      = some (countField field.1 names.aggregateField (Literal.ofValue field.2.toWhere).term) := by
  let tail := CodePoint.char ' ' :: .char '\x7b' :: countText
  let aggregate := names.aggregateField.toList ++ argumentsText field.2 tail
  let named := field.1.toList ++ .char ':' :: .char ' ' :: aggregate
  have htext : (line names field).toList = .char ' ' :: .char ' ' :: named :=
    toList_line names field
  -- The line is longer than its argument, so its length is fuel enough for both readers.
  obtain ⟨n, hlength, hargument⟩ : ∃ n, (line names field).toList.length = n + 2 ∧
      (argument field.2).write.length + 1 < n + 2 := by
    have hlong : (argument field.2).write.length + 2 ≤ (line names field).toList.length := by
      rw [htext]
      simp only [named, aggregate, argumentsText, List.length_cons, List.length_append]
      omega
    exact ⟨(line names field).toList.length - 2, by omega, by omega⟩
  -- The two names of the line, with the blanks before them skipped.
  have hfirst : name? (.char ' ' :: .char ' ' :: named)
      = some (field.1, .char ':' :: .char ' ' :: aggregate) :=
    (name?_congr ((next?_space _).trans (next?_space _))).trans
      (name?_append halias (Stops.cons rfl _))
  have hcolon : after? ':' (.char ':' :: .char ' ' :: aggregate) = some (.char ' ' :: aggregate) :=
    after?_mark (by decide) _
  have hsecond : name? (.char ' ' :: aggregate)
      = some (names.aggregateField, argumentsText field.2 tail) :=
    (name?_congr (next?_space _)).trans (name?_append haggregate (Stops.cons rfl _))
  have haliased : aliased? (line names field).toList
      = some (some field.1, names.aggregateField, argumentsText field.2 tail) := by
    rw [htext, aliased?, hfirst]
    simp only [Option.bind_eq_bind, Option.bind_some, hcolon, hsecond]
    rfl
  -- What is left is a field with arguments and a selection, and both have been read above.
  have hread : field? (n + 2 + 1) (line names field).toList
      = some (countField field.1 names.aggregateField (Literal.ofValue field.2.toWhere).term, []) :=
    field?_node haliased (arguments?_argument hwhere.isReadable hargument tail) rfl
      (selections?_count n)
  rw [readField?, hlength, hread]
  rfl

end FacetQuery

end FacetSearch
