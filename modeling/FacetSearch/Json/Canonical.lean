import FacetSearch.Arranged
import FacetSearch.Failure
import FacetSearch.Text.Order
import FacetSearch.Value.Key

/-!
# `FacetSearch.Json.Canonical`: one JSON text per value

Cache keys carry variables as JSON in which the entries of every object are in the order of their
keys, there are no blanks, and only ASCII is used. Texts are ordered by code point; numbers and
flags by value, where not-a-number goes beside everything; keys of both sorts in one object have no
order and are refused, and so are keys of other kinds. Numbers that are not finite are written by
name. A value that JSON does not know is written as the string of its plain text.
-/

set_option autoImplicit false

namespace FacetSearch.Json

/-- A double in JSON, where numbers that are not finite have names that JSON itself does not
know. -/
def doubleText : Binary64 → List Char
  | .infinite negative => if negative then "-Infinity".toList else "Infinity".toList
  | .nan => "NaN".toList
  | other => other.text

/-- A key of an object as text, where it can be one. Keys of different kinds can have one text. -/
def keyText? : Value → Option (List CodePoint)
  | .text content => some content.toList
  | .dimension d => some (d.text.toList.map .char)
  | .null => some ("null".toList.map .char)
  | .bool flag => some ((if flag then "true" else "false").toList.map .char)
  | .int number => some ((integerText number).map .char)
  | .float number => some ((doubleText number).map .char)
  | _ => none

/-- Members in brackets with commas between them, and without blanks. -/
def arrayText (pieces : List (List CodePoint)) : List CodePoint :=
  .char '[' :: (joined [.char ','] pieces ++ [.char ']'])

/-- Members in braces with commas between them, and without blanks. -/
def objectText (pieces : List (List CodePoint)) : List CodePoint :=
  .char '\x7b' :: (joined [.char ','] pieces ++ [.char '\x7d'])

/-- Whether two numbers have an undefined order: one is a decimal, and one is not-a-number. -/
def isUndefinedOrder (a b : Value) : Bool :=
  (a.isDecimal || b.isDecimal) && (a.isNotANumber || b.isNotANumber)

/-- Whether a key goes strictly before another. Texts compare with texts and numbers with numbers;
keys of both kinds in one object cannot be put in order. -/
def keyBefore (a b : Value) : Except Failure Bool :=
  match a.text?, b.text? with
  | some x, some y => .ok (!textLe y.toList x.toList)
  | _, _ =>
      if !(a.isNumber && b.isNumber) then .error .unsupported
      else if isUndefinedOrder a b then .error .undefinedOperation
      else
        match a.quantity?, b.quantity? with
        | some x, some y => .ok (x.isBelow y)
        | _, _ => .ok false

/-- An entry of an object from its key and the text of its value. The key is looked at first. -/
def canonicalEntry (entry : Value × Except Failure (List CodePoint)) :
    Except Failure (List CodePoint) := do
  match keyText? entry.1 with
  | some name => return asciiQuoted name ++ .char ':' :: (← entry.2)
  | none => throw .unsupported

/-- The text of an object from its keys and the texts of their values. The first key or value that
cannot be written, in the order of the keys, decides why there is none. -/
def canonicalObject (entries : List (Value × Except Failure (List CodePoint))) :
    Except Failure (List CodePoint) := do
  let inOrder ← arranged (fun a b => keyBefore a.1 b.1) entries
  return objectText (← inOrder.mapM canonicalEntry)

mutual

/-- The canonical JSON text of a value. Entries are put in order and everything is ASCII, so the
text depends on the value alone. What is no value of JSON is written as a string. -/
def canonical : Value → Except Failure (List CodePoint)
  | .null => .ok ("null".toList.map .char)
  | .bool flag => .ok ((if flag then "true" else "false").toList.map .char)
  | .int number => .ok ((integerText number).map .char)
  | .float number => .ok ((doubleText number).map .char)
  | .text content => .ok (asciiQuoted content.toList)
  | .dimension d => .ok (asciiQuoted (d.text.toList.map .char))
  | .list items => (canonicalItems items).map arrayText
  | .tuple items => (canonicalItems items).map arrayText
  | .map entries => canonicalObject (canonicalEntries entries)
  | other => .ok (asciiQuoted other.plainText)

/-- The canonical texts of items. -/
def canonicalItems : List Value → Except Failure (List (List CodePoint))
  | [] => .ok []
  | x :: xs => do
      let text ← canonical x
      let texts ← canonicalItems xs
      return text :: texts

/-- The keys of entries with the canonical texts of their values. -/
def canonicalEntries : List (Value × Value) → List (Value × Except Failure (List CodePoint))
  | [] => []
  | (key, value) :: rest => (key, canonical value) :: canonicalEntries rest

end

end FacetSearch.Json
