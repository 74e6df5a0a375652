import FacetSearch.CountTable
import FacetSearch.Facets

/-!
# `FacetSearch.Facets.Decode`: reading facet counts from a reply

A reply maps aliases to mappings with a `_count`. It may come inside an envelope, under `data`,
which is opened when the reply has no total of its own. An alias that is missing, or whose count is
no number, counts zero; a fraction is cut off. Only an infinite count is refused.
-/

set_option autoImplicit false

namespace FacetSearch

/-- The ASCII text of bytes; a byte outside ASCII becomes a character that no number holds. -/
def asciiText (bytes : List UInt8) : List Char :=
  bytes.map fun byte => if byte.toNat < 128 then Char.ofNat byte.toNat else '?'

/-- A count as a whole number. Fractions are cut off, texts are read as whole numbers, and whatever
is no number counts zero, a flag included. An infinite count is the one thing that has no whole
number. -/
def Value.count : Value → Except Failure Int
  | .int number => .ok number
  | .float number =>
      match number with
      | .infinite _ => .error .infiniteCount
      | other => .ok (other.truncate?.getD 0)
  | .decimal number =>
      match number with
      | .infinite _ => .error .infiniteDecimalCount
      | other => .ok (other.truncate?.getD 0)
  | .text content => .ok ((content.chars?.bind lenientInteger?).getD 0)
  | .bytes content => .ok ((lenientInteger? (asciiText content)).getD 0)
  | _ => .ok 0

/-- The count in the entry of an alias. An entry that is no mapping counts zero, like one without a
count. -/
def Value.entryCount : Value → Except Failure Int
  | .map entries => ((Value.get? entries "_count").getD .null).count
  | _ => .ok 0

namespace FacetOptions

/-- The mapping of aliases in a reply: the reply itself, or what its envelope holds. A reply that
has a total is never taken for an envelope. -/
def payload (raw : Value) : List (Value × Value) :=
  match raw with
  | .map entries =>
      match Value.get? entries totalAlias, Value.get? entries "data" with
      | none, some (.map inner) => inner
      | _, _ => entries
  | _ => []

/-- The count under an alias. An alias that a reply lacks counts zero. -/
def countAt (entries : List (Value × Value)) (name : Text) : Except Failure Int :=
  ((Value.get? entries name).getD .null).entryCount

/-- The counts of a dimension by option id. Of options with one id the last count stays, at the
place of the first. -/
def dimensionCounts (options : FacetOptions) (entries : List (Value × Value)) (d : Dimension) :
    Except Failure (List (Text × Int)) := do
  let counts ← ((options d).mapIdx fun position row => (d.aliasAt position, row.id)).mapM
    fun (name, id) => do return (id, ← countAt entries name)
  return Entries.putAll [] counts

/-- The count table of a reply. The dimensions are read in order, so of several infinite counts the
first one is the failure. -/
def decode (options : FacetOptions) (raw : Value) : Except Failure CountTable := do
  let entries := payload raw
  let types ← dimensionCounts options entries .types
  let sectors ← dimensionCounts options entries .sectors
  let statuses ← dimensionCounts options entries .statuses
  let tags ← dimensionCounts options entries .tags
  let total ← countAt entries totalAlias
  return { types, sectors, statuses, tags, total }

end FacetOptions

/-- The count table of a reply to a query. It depends on the options that the query was built from,
and on no later state of their catalog. -/
def FacetQuery.decode (q : FacetQuery) (raw : Value) : Except Failure CountTable :=
  FacetOptions.decode q.options raw

end FacetSearch
