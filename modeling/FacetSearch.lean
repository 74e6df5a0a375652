import FacetSearch.CacheKey
import FacetSearch.Facets.Decode
import FacetSearch.Http
import FacetSearch.Record
import FacetSearch.Service
import FacetSearch.Transport.Scripted
import FacetSearch.Facets.Session
import FacetSearch.Selection.Session
import FacetSearch.Proofs.Entries
import FacetSearch.Proofs.Facets.Counts
import FacetSearch.Proofs.Facets.Meaning
import FacetSearch.Proofs.Catalog.Tables
import FacetSearch.Proofs.Expr.Clause
import FacetSearch.Proofs.Facets.Aliases
import FacetSearch.Proofs.Facets.Document
import FacetSearch.Proofs.Facets.SameLine
import FacetSearch.Proofs.Facets.Decoded
import FacetSearch.Proofs.Literal.Normal
import FacetSearch.Proofs.Facets.Invisible
import FacetSearch.Proofs.Facets.Compiles
import FacetSearch.Service.Call
import FacetSearch.Proofs.Service.Queue
import FacetSearch.Proofs.Service.Paging
import FacetSearch.Proofs.CacheKey
import FacetSearch.Proofs.Http.Refinement
import FacetSearch.Proofs.Facets.Placed
import FacetSearch.Proofs.Facets.SharedKey
import FacetSearch.Proofs.OperationName.Document
import FacetSearch.Proofs.Selection.Excluded
import FacetSearch.Proofs.Selection.Filters
import FacetSearch.Proofs.Service.Unfiltered
import FacetSearch.Proofs.Catalog.Stored
import FacetSearch.Proofs.Catalog.Renamed
import FacetSearch.Proofs.Expr.Shape
import FacetSearch.Proofs.Text.Shown
import FacetSearch.Proofs.Value.Shown
import FacetSearch.Proofs.Literal.Reordered
import FacetSearch.Proofs.Literal.Standing
import FacetSearch.Proofs.Http.Replies
import FacetSearch.Http.Run
import FacetSearch.Proofs.Http.Headers
import FacetSearch.Proofs.Http.Ownership
