import FacetSearch.Choice
import FacetSearch.Dimension

/-!
# `FacetSearch.Catalog`: the option tables

The metadata query returns nine tables. Four of them hold the options of the dimensions; the others
are kept for their users. A catalog can be edited: `insertOption` and `removeOption?` change the
table of one dimension.
-/

set_option autoImplicit false

namespace FacetSearch

/-- The option tables as the metadata query returns them. Only four of the nine belong to
dimensions; the others are carried along. -/
structure Catalog where
  profileTypes : List Choice := []
  profileSectors : List Choice := []
  profileStatuses : List Choice := []
  productTypes : List Choice := []
  productStatuses : List Choice := []
  assetTypes : List Choice := []
  assetStatuses : List Choice := []
  tagTypes : List Choice := []
  tags : List Choice := []

namespace Catalog

/-- The options of a dimension, placeholders included. -/
def options (c : Catalog) : Dimension → List Choice
  | .types => c.profileTypes
  | .sectors => c.profileSectors
  | .statuses => c.profileStatuses
  | .tags => c.tags

/-- The catalog with other options in one dimension. -/
def withOptions (c : Catalog) (d : Dimension) (rows : List Choice) : Catalog :=
  match d with
  | .types => { c with profileTypes := rows }
  | .sectors => { c with profileSectors := rows }
  | .statuses => { c with profileStatuses := rows }
  | .tags => { c with tags := rows }

/-- A position in a list of a given length; negative positions count from the end, and may still be
negative then. -/
def fromEnd (length : Nat) (position : Int) : Int :=
  if position < 0 then position + length else position

/-- Inserts an option before a position. Positions outside the list mean its nearer end. -/
def insertOption (c : Catalog) (d : Dimension) (position : Int) (row : Choice) : Catalog :=
  let rows := c.options d
  let place := (fromEnd rows.length position).toNat
  c.withOptions d (rows.take place ++ row :: rows.drop place)

/-- Removes the option at a position, if there is one. -/
def removeOption? (c : Catalog) (d : Dimension) (position : Int) : Option Catalog :=
  let rows := c.options d
  let place := fromEnd rows.length position
  if 0 ≤ place ∧ place < rows.length then some (c.withOptions d (rows.eraseIdx place.toNat))
  else none

end Catalog

end FacetSearch
