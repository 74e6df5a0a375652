import FacetSearch.Text

/-!
# `FacetSearch.Entries`: entries in order of first insertion

Mappings, count tables, headers and rows of a frame are lists of entries in which every key occurs
once. Putting an entry whose key is there already replaces the value and keeps the place, and the
first spelling of the key.
-/

set_option autoImplicit false

namespace FacetSearch.Entries

/-- Puts one entry, where `same` says which keys are one key. An entry that is replaced keeps its
place and its key, and takes the value. -/
def putBy {κ ν : Type} (same : κ → κ → Bool) : List (κ × ν) → κ → ν → List (κ × ν)
  | [], key, value => [(key, value)]
  | (k, v) :: rest, key, value =>
      if same k key then (k, value) :: rest else (k, v) :: putBy same rest key value

/-- Puts entries one after the other, so of two with one key the later value stays. -/
def putAllBy {κ ν : Type} (same : κ → κ → Bool) (entries additions : List (κ × ν)) :
    List (κ × ν) :=
  additions.foldl (fun acc entry => putBy same acc entry.1 entry.2) entries

/-- Puts entries with text keys one after the other. -/
def putAll {ν : Type} (entries additions : List (Text × ν)) : List (Text × ν) :=
  putAllBy (· == ·) entries additions

/-- The value of a text key, which is the first one under it. -/
def get? {ν : Type} (entries : List (Text × ν)) (key : Text) : Option ν :=
  entries.lookup key

end FacetSearch.Entries
