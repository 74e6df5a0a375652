import FacetSearch.Entries
import FacetSearch.Number.Quantity
import FacetSearch.Value

/-!
# `FacetSearch.Value.Key`: values as keys

Mappings and sets tell their keys apart by value. Numbers of every kind, flags among them, are one
key when they are exactly equal, so `1`, `1.0` and `true` are; a dimension is the text of its name;
not-a-number is a key of its own each time.

Only what cannot change can be a key: a list, a mapping and a set that is not frozen are none, nor
is a tuple or a where expression that holds one. Selections and predicates are keys by their fields;
a selection with a list of values is none, and neither is a conjunction, whose conditions are a
list.
-/

set_option autoImplicit false

namespace FacetSearch

/-- Whether no dimension was given, not even with an empty list. A list cannot be a key, and an
empty one is a list too. -/
def Selection.choosesNothing (s : Selection) : Bool :=
  s.types.isNone && s.sectors.isNone && s.statuses.isNone && s.tags.isNone

namespace Value

/-- A decimal. -/
def isDecimal : Value → Bool
  | .decimal _ => true
  | _ => false

/-- A number, which a flag is too: as keys `true` and one are the same. -/
def isNumber : Value → Bool
  | .bool _ => true
  | .int _ => true
  | .float _ => true
  | .decimal _ => true
  | _ => false

/-- The double or a decimal that is not-a-number, which equals nothing, not even itself. -/
def isNotANumber : Value → Bool
  | .float .nan => true
  | .decimal (.nan ..) => true
  | _ => false

/-- The quantity of a number, which is what numbers of different types are compared by. A flag
counts as zero or one. -/
def quantity? : Value → Option Quantity
  | .bool flag => some (Quantity.ofInt (if flag then 1 else 0))
  | .int number => some (Quantity.ofInt number)
  | .float number => Quantity.ofBinary64? number
  | .decimal number => Quantity.ofDecimal? number
  | _ => none

mutual

/-- Whether a value can be a key. What holds something that can change cannot be one itself. -/
def isKey : Value → Bool
  | .null => true
  | .bool _ => true
  | .int _ => true
  | .float _ => true
  | .text _ => true
  | .dimension _ => true
  | .bytes _ => true
  | .decimal (.nan _ signaling _) => !signaling
  | .decimal _ => true
  | .foreign _ => true
  | .tuple items => areKeys items
  | .set frozen _ => frozen
  | .selection chosen => chosen.choosesNothing
  | .expr (.field _ _ value) => isKey value
  | .expr .everything => true
  | _ => false

/-- Whether all items can be keys. -/
def areKeys : List Value → Bool
  | [] => true
  | x :: xs => isKey x && areKeys xs

end

mutual

/-- Whether two values are one key. This is wider than equality of values: numbers of all types
compare by quantity, and sets compare without an order. -/
def sameKey : Value → Value → Bool
  | .null, .null => true
  | .text a, other => other.text? == some a
  | .dimension d, other => other.text? == some (Text.ofString d.text)
  | .bytes a, .bytes b => a == b
  | .tuple xs, .tuple ys => sameKeys xs ys
  -- A frozen set and one that is not are equal when their members are.
  | .set _ xs, .set _ ys => xs.length == ys.length && allAmong xs ys
  | .selection s, .selection t => s.choosesNothing && t.choosesNothing && s.search == t.search
  | .expr e, .expr f => sameExprKey e f
  | a, b =>
      match a.quantity?, b.quantity? with
      | some x, some y => x.same y
      | _, _ => false
termination_by structural v => v

/-- Whether two sequences hold the same keys in the same order. Sequences of different lengths never
do. -/
def sameKeys : List Value → List Value → Bool
  | [], [] => true
  | x :: xs, y :: ys => sameKey x y && sameKeys xs ys
  | _, _ => false
termination_by structural vs => vs

/-- Whether every item of the first sequence is a key of the second. Sets of one size are equal when
this holds, since no key stands in a set twice. -/
def allAmong : List Value → List Value → Bool
  | [], _ => true
  | x :: xs, ys => ys.any (fun y => sameKey x y) && allAmong xs ys
termination_by structural vs => vs

/-- Whether two where expressions are one key. -/
def sameExprKey : Expr → Expr → Bool
  | .field p o v, .field p' o' v' => p == p' && o == o' && sameKey v v'
  | .all a b cs, .all a' b' cs' =>
      sameExprKey a a' && sameExprKey b b' && sameExprKeys cs cs'
  | .everything, .everything => true
  | _, _ => false
termination_by structural e => e

/-- Whether two lists of where expressions are the same item by item. -/
def sameExprKeys : List Expr → List Expr → Bool
  | [], [] => true
  | x :: xs, y :: ys => sameExprKey x y && sameExprKeys xs ys
  | _, _ => false
termination_by structural es => es

end

/-- The mapping of the given entries: a repeated key keeps its first place and spelling and takes
the last value. -/
def mapOf (entries : List (Value × Value)) : Value :=
  .map (Entries.putAllBy sameKey [] entries)

/-- The set of the given items: of equal items the first stays, with its spelling, and at its
place. -/
def setOf (frozen : Bool) (items : List Value) : Value :=
  .set frozen (items.foldl (fun acc x => if acc.any (·.sameKey x) then acc else acc ++ [x]) [])

/-- The value under a text key: the first one, where a mapping that was not built by `mapOf` has
several. -/
def get? (entries : List (Value × Value)) (name : Text) : Option Value :=
  (entries.find? fun entry => entry.1.text? == some name).map (·.2)

end Value

end FacetSearch
