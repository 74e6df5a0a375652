import FacetSearch.Json.Canonical

/-!
# `FacetSearch.Json.Body`: the JSON text of a request body

A body keeps the order of its entries, has no blanks, and leaves characters past ASCII as they are.
Unlike a cache key it holds JSON alone: numbers that are not finite are refused, and so are values
and keys that JSON does not know.
-/

set_option autoImplicit false

namespace FacetSearch.Json

/-- A key of an object in a body. Keys that are no texts become texts, as far as they have one in
JSON. -/
def bodyKey (key : Value) : Except Failure (List CodePoint) :=
  match key with
  | .float number =>
      if number.isFinite then .ok (jsonQuoted (number.text.map .char)) else .error .unwritableNumber
  | other =>
      match keyText? other with
      | some name => .ok (jsonQuoted name)
      | none => .error .unsupported

mutual

/-- The JSON text of a value in a body. What is not ASCII is written as it is, and numbers that JSON
does not have are refused. Records and sets are no values of JSON. -/
def body : Value → Except Failure (List CodePoint)
  | .null => .ok ("null".toList.map .char)
  | .bool flag => .ok ((if flag then "true" else "false").toList.map .char)
  | .int number => .ok ((integerText number).map .char)
  | .float number =>
      if number.isFinite then .ok (number.text.map .char) else .error .unwritableNumber
  | .text content => .ok (jsonQuoted content.toList)
  | .dimension d => .ok (jsonQuoted (d.text.toList.map .char))
  | .list items => (bodyItems items).map arrayText
  | .tuple items => (bodyItems items).map arrayText
  | .map entries => (bodyEntries entries).map objectText
  | _ => .error .unsupported

/-- The JSON texts of items. -/
def bodyItems : List Value → Except Failure (List (List CodePoint))
  | [] => .ok []
  | x :: xs => do
      let text ← body x
      let texts ← bodyItems xs
      return text :: texts

/-- The JSON texts of entries, in their order. The first one that cannot be written decides why
there is no text. -/
def bodyEntries : List (Value × Value) → Except Failure (List (List CodePoint))
  | [] => .ok []
  | (key, value) :: rest => do
      let name ← bodyKey key
      let text ← body value
      let texts ← bodyEntries rest
      return (name ++ .char ':' :: text) :: texts

end

end FacetSearch.Json
