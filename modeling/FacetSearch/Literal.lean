import FacetSearch.Number.Shortest
import FacetSearch.Text.Joined
import FacetSearch.Text.Quoted
import FacetSearch.Value

/-!
# `FacetSearch.Literal`: values written into a query

Facet queries carry one where clause per alias, so the clauses stand in the query as literal text
and not as bound variables. A literal is null, a string, a number, a flag, a list or an object; its
text follows the value grammar of GraphQL. Numbers keep their value and not their spelling: a whole
double is written as the integer it is, and an infinity or not-a-number, which the grammar cannot
express, as `null`.

A literal tree that holds a `foreign` leaf is not one of these kinds, and `render` refuses it with
the first such leaf.
-/

set_option autoImplicit false

namespace FacetSearch

/-- A literal of a query. The kinds are those of the value grammar, with two more for what the
library itself puts among them. -/
inductive Literal where
  | null
  | text (content : Text)
  /-- A dimension, written as the text of its name. -/
  | dimension (member : Dimension)
  | int (number : Int)
  | float (number : Binary64)
  /-- A flag in the place of a number, written by its shown name. -/
  | numericFlag (flag : Bool)
  | bool (flag : Bool)
  | list (items : List Literal)
  | object (fields : List (Text × Literal))
  /-- Something that stands where a literal should, and is none. -/
  | foreign (value : Value)

namespace Literal

/-- The text of a number: a whole double is the integer it is, and one that is not finite is
`null`. -/
def numberText (x : Binary64) : List Char :=
  if x.isFinite then
    match x.integer? with
    | some n => integerText n
    | none => x.text
  else "null".toList

/-- A list in brackets, from the texts of its items. The grammar ignores the commas between them;
they are for readers. -/
def listText (pieces : List (List CodePoint)) : List CodePoint :=
  .char '[' :: (commaJoined pieces ++ [.char ']'])

/-- An object in braces, from the texts of its fields. The empty object has no blank inside. -/
def objectText : List (List CodePoint) → List CodePoint
  | [] => [.char '\x7b', .char '\x7d']
  | pieces => .char '\x7b' :: .char ' ' :: (commaJoined pieces ++ [.char ' ', .char '\x7d'])

mutual

/-- The text of a literal. Strings are quoted as in JSON, which the grammar takes for what they are,
and names of fields are not quoted. A leaf that is no literal has no text. -/
def write : Literal → List CodePoint
  | .null => "null".toList.map .char
  | .text content => jsonQuoted content.toList
  | .dimension d => jsonQuoted (d.text.toList.map .char)
  | .int number => (integerText number).map .char
  | .float number => (numberText number).map .char
  | .numericFlag flag => (if flag then "True" else "False").toList.map .char
  | .bool flag => (if flag then "true" else "false").toList.map .char
  | .list items => listText (writeItems items)
  | .object fields => objectText (writeFields fields)
  | .foreign _ => []

/-- The texts of the items of a list. -/
def writeItems : List Literal → List (List CodePoint)
  | [] => []
  | x :: xs => write x :: writeItems xs

/-- The texts of the fields of an object. -/
def writeFields : List (Text × Literal) → List (List CodePoint)
  | [] => []
  | (name, x) :: rest => (name.toList ++ .char ':' :: .char ' ' :: write x) :: writeFields rest

end

mutual

/-- The first leaf, in the order of the text, that is no literal. The writer would stop there and
report it. -/
def foreign? : Literal → Option Value
  | .foreign value => some value
  | .list items => foreignItem? items
  | .object fields => foreignField? fields
  | _ => none

/-- The first such leaf in the items of a list. -/
def foreignItem? : List Literal → Option Value
  | [] => none
  | x :: xs => (foreign? x).or (foreignItem? xs)

/-- The first such leaf in the fields of an object. -/
def foreignField? : List (Text × Literal) → Option Value
  | [] => none
  | (_, x) :: rest => (foreign? x).or (foreignField? rest)

end

/-- The text of a literal tree, or the first leaf that is no literal. Nothing is checked of the
names of fields, which are written as they are. -/
def render (literal : Literal) : Except Value Text :=
  match literal.foreign? with
  | some value => .error value
  | none => .ok (.ofList literal.write)

end Literal

end FacetSearch
