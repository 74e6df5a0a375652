import FacetSearch.Checked
import FacetSearch.Expr.Where

/-!
# `FacetSearch.Expr.Check`: accepting where expressions

An expression is given as a mapping that names its kind, or as an expression that is one already. A
conjunction needs at least two conditions, each of them an expression. The path to an issue inside
an expression passes through its kind.

The check goes down through tagged conjunctions. The validation library guards its own stack there:
it refuses what is nested up to a limit of its own, which differs between platforms, so the limit is
an argument here and `nestingLimit` is the usual one. An expression that is one already is taken as
it is and not checked again inside, so expressions that are made one from another can be deeper than
any plain data that is accepted.
-/

set_option autoImplicit false

namespace FacetSearch.Expr

/-- Checks the fields of a predicate on one field. The path and the operator must be texts, and may
be empty; what is compared with may be anything, and is null when it is left out. -/
def checkField (given : Given) : Checked Expr :=
  ((given.constant "kind" "field").both <|
    (given.required "path" Value.checkText).both <|
    (given.required "operator" Value.checkText).both
      (given.withDefault "value" .null Value.checkAny)).map
    fun (_, path, operator, value) => .field path operator value

/-- Checks the fields of the expression that every profile meets. It has none but its kind. -/
def checkEverything (given : Given) : Checked Expr :=
  (given.constant "kind" "empty").map fun _ => .everything

/-- A conjunction of at least two conditions. Fewer are refused by a rule of the record itself,
after each of them was accepted. -/
def ofConditions : List Expr → Checked Expr
  | first :: second :: rest => .ok (.all first second rest)
  | _ => .fault .tooFewConditions

/-- The issues of a value that is no list of expressions. A record yields its fields, none of which
is an expression. -/
def noConditions (value : Value) : Checked Expr :=
  match value.fields? with
  | some fields => .error (fields.mapIdx fun position _ => ⟨[.index position], .notExpression⟩)
  | none => .fault .notList

/-- The kinds of expressions, which tag them as plain data. The tag decides alone which fields are
looked for. -/
inductive Kind where
  | field
  | conjunction
  | everything

/-- The kind that a tag names. Tags are compared exactly. -/
def Kind.ofValue? (tag : Value) : Option Kind :=
  if tag.text? = some ("field" : Text) then some .field
  else if tag.text? = some ("and" : Text) then some .conjunction
  else if tag.text? = some ("empty" : Text) then some .everything
  else none

/-- The usual limit of nested conjunctions. It is no property of expressions but of the library that
validates them, so the theory holds of any limit. -/
def nestingLimit : Nat := 255

/-- A conjunction inside `depth` others, of which fewer than `limit` may stand in one another. One
that is too deep is refused before its conditions are looked at. -/
def enter (limit depth : Nat) (inner : Checked Expr) : Checked Expr :=
  (if depth + 1 < limit then inner else .fault .nestedTooDeep).under (.name "and")

mutual

/-- Checks a value in a place for expressions, inside `depth` conjunctions. A conjunction that is an
expression already counts as one, however deep it is inside. -/
def check (limit depth : Nat) : Value → Checked Expr
  -- The guard counts a conjunction that is an expression already, but does not look into it.
  | .expr (.all first second rest) => enter limit depth (.ok (.all first second rest))
  | .expr e => .ok e
  | .map entries =>
      match Value.get? entries "kind" with
      | none => .fault .missingKind
      | some tag =>
          match Kind.ofValue? tag with
          | some .field => (checkField entries).under (.name "field")
          | some .conjunction => enter limit depth (checkConditionsField limit (depth + 1) entries)
          | some .everything => (checkEverything entries).under (.name "empty")
          | none => .fault .unknownKind
  | .null => .fault .notExpression
  | .bool _ => .fault .notExpression
  | .int _ => .fault .notExpression
  | .float _ => .fault .notExpression
  | .text _ => .fault .notExpression
  | .bytes _ => .fault .notExpression
  | .list _ => .fault .notExpression
  | .tuple _ => .fault .notExpression
  | .set _ _ => .fault .notExpression
  | _ => .fault .missingKind

/-- Finds the conditions of a conjunction among its fields and checks them. The first field of the
name counts. -/
def checkConditionsField (limit depth : Nat) : List (Value × Value) → Checked Expr
  | [] => (Checked.fault .missing).under (.name "conditions")
  | (key, value) :: rest =>
      if key.text? = some ("conditions" : Text) then
        (checkConditions limit depth value).under (.name "conditions")
      else checkConditionsField limit depth rest

/-- Checks a list of conditions. Every container that yields items in a list field is taken, and the
number of conditions is checked last. -/
def checkConditions (limit depth : Nat) : Value → Checked Expr
  | .list values => (checkEach limit depth 0 values).bind ofConditions
  | .tuple values => (checkEach limit depth 0 values).bind ofConditions
  | .set _ values => (checkEach limit depth 0 values).bind ofConditions
  | other => noConditions other

/-- Checks conditions from a position on. All of them are checked, so one report has the issues of
all. -/
def checkEach (limit depth position : Nat) : List Value → Checked (List Expr)
  | [] => .ok []
  | value :: rest =>
      (((check limit depth value).under (.index position)).both
        (checkEach limit depth (position + 1) rest)).map fun (e, es) => e :: es

end

/-- Checks the fields of a conjunction, which stands in no other. -/
def checkAll (limit : Nat) (given : Given) : Checked Expr :=
  ((given.constant "kind" "and").both (checkConditionsField limit 1 given)).map fun (_, e) => e

/-- The name of the record in reports. -/
def recordName : String := "tagged-union[FieldMatch,And,Empty]"

/-- A value that must be an expression, inside no conjunction. -/
def ofValue (limit : Nat) (value : Value) : Except Failure Expr :=
  (check limit 0 value).asOutcome recordName

end FacetSearch.Expr
