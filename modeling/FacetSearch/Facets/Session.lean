import FacetSearch.Catalog.Check
import FacetSearch.Facets.Decode

/-!
# `FacetSearch.Facets.Session`: a catalog under edit and its last query

A catalog stays open for edits after a query over it was compiled. A session holds the catalog as it
is now and the query compiled last. Compiling reads the catalog, an edit changes it, and decoding
reads the query.
-/

set_option autoImplicit false

namespace FacetSearch

/-- A change to the option list of one dimension, as a caller makes it in place: the catalog stays
the same object for its holder. -/
inductive CatalogEdit where
  | insert (d : Dimension) (position : Int) (row : Choice)
  | remove (d : Dimension) (position : Int)

/-- The catalog after an edit. Where there is no option to remove, nothing changes. -/
def Catalog.edit (c : Catalog) : CatalogEdit → Catalog
  | .insert d position row => c.insertOption d position row
  | .remove d position => (c.removeOption? d position).getD c

/-- A catalog under edit, and the query compiled last. The query keeps its own options while the
catalog changes. -/
structure FacetSession where
  catalog : Catalog
  query : Option FacetQuery := none

namespace FacetSession

/-- A session over a value taken for a catalog, before any query is compiled. -/
def start (catalog : Value) : Except Failure FacetSession :=
  (Catalog.coerce catalog).map fun tables => { catalog := tables }

/-- Compiles the query of a value taken for a selection, over the catalog as it is by then. -/
def compile (names : FacetNames) (choice : Value) (v : FacetSession) :
    Except Failure FacetSession :=
  (FacetQuery.compile names (Selection.coerce choice) v.catalog).map fun q =>
    { v with query := some q }

/-- Edits the catalog, and leaves the query compiled last as it is. -/
def edit (v : FacetSession) (change : CatalogEdit) : FacetSession :=
  { v with catalog := v.catalog.edit change }

/-- Reads the counts of a reply to the query compiled last. There is nothing to read them by before
the first one. -/
def decode (v : FacetSession) (raw : Value) : Except Failure CountTable :=
  match v.query with
  | some q => q.decode raw
  | none => .error .noMember

end FacetSession

end FacetSearch
