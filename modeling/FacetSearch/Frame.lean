import FacetSearch.CountTable
import FacetSearch.Entries
import FacetSearch.Failure

/-!
# `FacetSearch.Frame`: tables with typed columns

A frame is a table with named columns, made of rows that need not hold every column. Columns come in
the order of first appearance. A column of numbers has one type: whole numbers beside doubles or
beside missing cells become doubles. A column that also holds anything else keeps its cells as they
are, and so does one whose whole numbers fit no type of 64 bits: signed numbers reach from `-2^63`
and unsigned ones up to `2^64 - 1`, so a negative number and one from `2^63` on do not go together.
A cell that is missing, null or not-a-number, be it a double or a decimal, is null; a decimal that
signals cannot even be compared with itself, so it has no place in a frame.
-/

set_option autoImplicit false

namespace FacetSearch

/-- A table with named columns. -/
structure Frame where
  columns : List Text
  rows : List (List Value)
  /-- The number of rows, which a table without columns has too. -/
  height : Nat

namespace Frame

/-- A missing cell, null or not-a-number. A record without the column has null there, so the three
cannot be told apart afterwards. -/
def isMissing : Value → Bool
  | .null => true
  | .float .nan => true
  | .decimal (.nan ..) => true
  | _ => false

/-- A decimal that signals when it is compared. To find missing cells every cell is compared, so one
of these is enough to fail. -/
def isSignaling : Value → Bool
  | .decimal (.nan _ signaling _) => signaling
  | _ => false

/-- A cell that a column of numbers can hold: a double, a whole number of at most 64 bits, or a
missing cell that is no decimal. -/
def isNumeric : Value → Bool
  | .null => true
  | .float _ => true
  | .int n => decide (-(twoTo 63 : Int) ≤ n) && decide (n < (twoTo 64 : Int))
  | _ => false

/-- A whole number. -/
def isWhole : Value → Bool
  | .int _ => true
  | _ => false

/-- A whole number that no unsigned type holds. -/
def isNegative : Value → Bool
  | .int n => decide (n < 0)
  | _ => false

/-- A whole number that no signed type of 64 bits holds. -/
def isLarge : Value → Bool
  | .int n => decide ((twoTo 63 : Int) ≤ n)
  | _ => false

/-- Whether cells make a column of numbers. -/
def areNumbers (cells : List Value) : Bool :=
  cells.all isNumeric && !(cells.any isNegative && cells.any isLarge)

/-- A cell of a column of doubles. Whole numbers are rounded to doubles there, which can lose digits
from `2^53` on. -/
def widened : Value → Value
  | .int n => .float (Binary64.ofInt n)
  | other => other

/-- A cell as it is read from a column. -/
def read (cell : Value) : Value := if isMissing cell then .null else cell

/-- The cells of a column under its type. Only a column of numbers that are not all whole is
changed. -/
def column (cells : List Value) : List Value :=
  if areNumbers cells && !cells.all isWhole then cells.map fun cell => read (widened cell)
  else cells.map read

/-- Puts the names that are new after the names that are there, so columns come in the order of
first appearance. -/
def mergeNames (names additions : List Text) : List Text :=
  additions.foldl (fun acc name => if acc.contains name then acc else acc ++ [name]) names

/-- The rows of given columns, each column a list of `height` cells. The height is given, since
there may be no column to take it from. -/
def transposed : Nat → List (List Value) → List (List Value)
  | 0, _ => []
  | height + 1, columns =>
      columns.filterMap List.head? :: transposed height (columns.map List.tail)

/-- The frame of given records, none of which has a cell that signals. A record that lacks a column
has null in it. -/
def ofQuiet (records : List (List (Text × Value))) : Frame :=
  let names := records.foldl (fun acc record => mergeNames acc (record.map (·.1))) []
  let columns := names.map fun name =>
    column (records.map fun record => (Entries.get? record name).getD .null)
  { columns := names
    rows := if names.isEmpty then [] else transposed records.length columns
    height := records.length }

/-- The frame of given records. -/
def ofRecords (records : List (List (Text × Value))) : Except Failure Frame :=
  if records.any fun record => record.any fun entry => isSignaling entry.2 then
    .error .undefinedOperation
  else .ok (ofQuiet records)

end Frame

/-- One row per dimension and option of a count table, in the order of the dimensions. The total has
no row. -/
def CountTable.toFrame (t : CountTable) : Frame :=
  let rows := Dimension.all.flatMap fun d =>
    (t.counts d).map fun (id, n) => [.text d.text, .text id, .int n]
  { columns := ["dimension", "option_id", "count"], rows := rows, height := rows.length }

end FacetSearch
