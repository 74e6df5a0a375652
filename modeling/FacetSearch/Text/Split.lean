import FacetSearch.Text

/-!
# `FacetSearch.Text.Split`: parts between separators

A text falls into parts at every separator, so it has one part more than separators, and joining
the parts gives the text back.
-/

set_option autoImplicit false

namespace FacetSearch

/-- The parts of a text between the occurrences of a separator. There is one part more than
separators, and parts may be empty. -/
def partsAt {α : Type} [DecidableEq α] (separator : α) : List α → List (List α)
  | [] => [[]]
  | c :: rest =>
      if c = separator then [] :: partsAt separator rest
      else
        match partsAt separator rest with
        | [] => [[c]]
        | part :: parts => (c :: part) :: parts

/-- The steps of a dotted path. The empty path is one empty step. -/
def pathSteps (path : Text) : List Text := (partsAt (.char '.') path.toList).map Text.ofList

end FacetSearch
