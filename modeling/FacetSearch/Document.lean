/-!
# `FacetSearch.Document`: the fixed query documents

Two documents never change: the one that asks for the option tables, and the one that asks for a
page of profiles. Facet documents are made for each selection (`FacetSearch.Facets`).
-/

set_option autoImplicit false

namespace FacetSearch.Document

/-- Asks for the nine option tables, sorted by name. Tags are limited in number, and come with their
kinds. -/
def filterMetadata : String :=
  "query GetFilterMetadata \x7b
  profileTypes(order_by: \x7bname: Asc\x7d) \x7b id name \x7d
  profileSectors(order_by: \x7bname: Asc\x7d) \x7b id name \x7d
  profileStatuses(order_by: \x7bname: Asc\x7d) \x7b id name \x7d
  productTypes(order_by: \x7bname: Asc\x7d) \x7b id name \x7d
  productStatuses(order_by: \x7bname: Asc\x7d) \x7b id name \x7d
  assetTypes(order_by: \x7bname: Asc\x7d) \x7b id name \x7d
  assetStatuses(order_by: \x7bname: Asc\x7d) \x7b id name \x7d
  tagTypes(order_by: \x7bname: Asc\x7d) \x7b id name \x7d
  tags(order_by: \x7bname: Asc\x7d, limit: 500) \x7b id name tagType \x7b id name \x7d \x7d
\x7d"

/-- Asks for the profiles that meet a where clause, from an offset on, sorted by name. All that
varies is in its variables, so the document is the same for every listing. -/
def profileSearch : String :=
  "query SearchProfiles($where: ProfileInfosBoolExp, $limit: Int, $offset: Int) \x7b
  profileInfos(where: $where, limit: $limit, offset: $offset, order_by: \x7bname: Asc\x7d) \x7b
    id
    name
    profileType \x7b id name \x7d
    profileSector \x7b id name \x7d
    profileStatus \x7b id name \x7d
  \x7d
\x7d"

end FacetSearch.Document
