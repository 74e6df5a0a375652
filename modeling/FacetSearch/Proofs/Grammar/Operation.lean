import FacetSearch.Proofs.Grammar.Spelled

/-!
# `FacetSearch.Proofs.Grammar.Operation`: operations and their tokens

An operation is a query, a mutation or a subscription, with a name, variables and directives, each
of which can be missing, and a selection set. A selection set alone is a query in short. The trees
here are those of the grammar, with numbers and strings as they are spelled, and `Operation.pieces`
lists the tokens of an operation in order. A text is a document of an operation when these are the
tokens that it spells.

A few trees have tokens that the grammar refuses: a fragment of the name `on`, and variables in the
default values and the directives of variables.
-/

set_option autoImplicit false

namespace FacetSearch.Grammar

/-- A value in a document. Flags, null and members of enumerations are names, and numbers and
strings keep their spelling, since the name of an operation does not depend on what they mean. -/
inductive Input where
  | reference (name : Text)
  | number (text : List CodePoint)
  | string (text : List CodePoint)
  | name (text : Text)
  | list (items : List Input)
  | object (fields : List (Text × Input))

/-- A directive with its arguments. Directives stand on operations, on definitions and on members,
and read alike everywhere. -/
structure Directive where
  name : Text
  arguments : List (Text × Input)

/-- The type of a variable, which can be required. A list type has the type of its items inside. -/
inductive TypeRef where
  | named (name : Text) (required : Bool)
  | list (item : TypeRef) (required : Bool)

/-- The definition of a variable: its name, its type, and what else may stand with it. -/
structure VariableDefinition where
  name : Text
  type : TypeRef
  value : Option Input
  directives : List Directive

/-- A member of a selection set: a field, of which an empty list of members says that it has no
selection set, a spread of a fragment, or a fragment in its place. -/
inductive Node where
  | field (aliasName : Option Text) (name : Text) (arguments : List (Text × Input))
      (directives : List Directive) (members : List Node)
  | spread (name : Text) (directives : List Directive)
  | fragment (type : Option Text) (directives : List Directive) (first : Node) (rest : List Node)

/-- The kinds of operations, which their keywords tell. -/
inductive OperationKind where
  | query
  | mutation
  | subscription

/-- The keyword of a kind of operation. -/
def OperationKind.keyword : OperationKind → String
  | query => "query"
  | mutation => "mutation"
  | subscription => "subscription"

/-- An operation with its selection set of at least one member. The short form has no keyword and no
name, so it is anonymous. -/
inductive Operation where
  | short (first : Node) (rest : List Node)
  | full (kind : OperationKind) (name : Option Text) (definitions : List VariableDefinition)
      (directives : List Directive) (first : Node) (rest : List Node)

/-! ### Tokens -/

mutual

/-- The tokens of a value, with all that it holds. Names of its parts are tokens like any other. -/
def Input.pieces : Input → List Piece
  | .reference name => [.mark '$', .name name]
  | .number text => [.number text]
  | .string text => [.string text]
  | .name text => [.name text]
  | .list items => .mark '[' :: (itemPieces items ++ [.mark ']'])
  | .object fields => .mark '\x7b' :: (entryPieces fields ++ [.mark '\x7d'])

/-- The tokens of the items of a list. -/
def itemPieces : List Input → List Piece
  | [] => []
  | x :: xs => x.pieces ++ itemPieces xs

/-- The tokens of names with values. -/
def entryPieces : List (Text × Input) → List Piece
  | [] => []
  | (name, x) :: rest => .name name :: .mark ':' :: (x.pieces ++ entryPieces rest)

end

/-- Tokens between a pair of marks, if there are any. The grammar has no empty parentheses and no
empty selection sets, so nothing is written as nothing. -/
def enclosed (opening closing : Char) (inner : List Piece) : List Piece :=
  if inner.isEmpty then [] else .mark opening :: (inner ++ [.mark closing])

/-- The tokens of arguments. -/
def argumentPieces (arguments : List (Text × Input)) : List Piece :=
  enclosed '(' ')' (entryPieces arguments)

/-- The tokens of a directive: its mark, its name and its arguments. -/
def Directive.pieces (d : Directive) : List Piece :=
  .mark '@' :: .name d.name :: argumentPieces d.arguments

/-- The mark of a required type. -/
def requiredPieces (required : Bool) : List Piece := if required then [.mark '!'] else []

/-- The tokens of a type, with the mark of a required one behind it. -/
def TypeRef.pieces : TypeRef → List Piece
  | .named name required => .name name :: requiredPieces required
  | .list item required => .mark '[' :: (item.pieces ++ .mark ']' :: requiredPieces required)

/-- The tokens of the definition of a variable. -/
def VariableDefinition.pieces (v : VariableDefinition) : List Piece :=
  .mark '$' :: .name v.name :: .mark ':' ::
    (v.type.pieces ++ (v.value.elim [] fun x => .mark '=' :: x.pieces) ++
      v.directives.flatMap Directive.pieces)

mutual

/-- The tokens of a member of a selection set, and of the sets inside of it. -/
def Node.pieces : Node → List Piece
  | .field aliasName name arguments directives members =>
      (aliasName.elim [] fun text => [.name text, .mark ':']) ++
        .name name :: (argumentPieces arguments ++ (directives.flatMap Directive.pieces ++
          enclosed '\x7b' '\x7d' (nodePieces members)))
  | .spread name directives => .spread :: .name name :: directives.flatMap Directive.pieces
  | .fragment type directives first rest =>
      .spread :: ((type.elim [] fun text => [.name "on", .name text]) ++
        (directives.flatMap Directive.pieces ++
          .mark '\x7b' :: (first.pieces ++ (nodePieces rest ++ [.mark '\x7d']))))

/-- The tokens of several members. -/
def nodePieces : List Node → List Piece
  | [] => []
  | node :: rest => node.pieces ++ nodePieces rest

end

/-- The tokens of a selection set. -/
def setPieces (first : Node) (rest : List Node) : List Piece :=
  .mark '\x7b' :: (first.pieces ++ (nodePieces rest ++ [.mark '\x7d']))

/-- The tokens of an operation after its keyword and its name. They start with a mark, whatever is
left out. -/
def signaturePieces (definitions : List VariableDefinition) (directives : List Directive)
    (first : Node) (rest : List Node) : List Piece :=
  enclosed '(' ')' (definitions.flatMap VariableDefinition.pieces) ++
    (directives.flatMap Directive.pieces ++ setPieces first rest)

namespace Operation

/-- The tokens of an operation, from which its name can be told without the rest. -/
def pieces : Operation → List Piece
  | short first rest => setPieces first rest
  | full kind name definitions directives first rest =>
      .name kind.keyword :: ((name.elim [] fun text => [.name text]) ++
        signaturePieces definitions directives first rest)

/-- The name of an operation, if it has one. The short form never has. -/
def name? : Operation → Option Text
  | short .. => none
  | full _ name .. => name

end Operation

/-- What follows the keyword and the name of an operation starts with a mark. So a name right after
the keyword is that of the operation, whatever comes later. -/
theorem exists_mark_signaturePieces (definitions : List VariableDefinition)
    (directives : List Directive) (first : Node) (rest : List Node) :
    ∃ c others, signaturePieces definitions directives first rest = .mark c :: others ∧
      c ∈ ['(', '@', '\x7b'] := by
  rw [signaturePieces, enclosed]
  -- Variables come first if there are any, then directives, and the selection set is always there.
  split
  · cases directives with
    | nil => exact ⟨'\x7b', _, rfl, by decide⟩
    | cons d ds => exact ⟨'@', _, rfl, by decide⟩
  · exact ⟨'(', _, rfl, by decide⟩

/-- An operation whose tokens start with two names has the second one. The first is its keyword, and
without a name a mark would follow it. -/
theorem Operation.name?_of_pieces {op : Operation} {word name : Text} {others : List Piece}
    (h : op.pieces = .name word :: .name name :: others) : op.name? = some name := by
  -- The short form starts with a bracket. The full form has its name behind the keyword, or what
  -- follows starts with a mark.
  cases op with
  | short first rest => cases h
  | full kind given definitions directives first rest =>
      cases given with
      | none =>
          obtain ⟨c, others, hmark, -⟩ :=
            exists_mark_signaturePieces definitions directives first rest
          rw [Operation.pieces, hmark] at h
          cases h
      | some text =>
          cases h
          rfl

end FacetSearch.Grammar
