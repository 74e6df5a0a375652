/-!
# `FacetSearch.Address.DomainFault`: what is wrong with a domain name

A name is faulty when one of its labels is. The faults tell the form of a label, its characters,
their places and its direction apart.
-/

set_option autoImplicit false

namespace FacetSearch.Address

/-- What is wrong with a label of a domain name. -/
inductive DomainFault where
  /-- It is empty, too long, not in the form of a label, or joined where letters do not join. -/
  | malformed
  /-- It holds a character that stands in no label. -/
  | character
  /-- It holds a character that may not stand where it stands. -/
  | place
  /-- It runs in no one direction, or in none that is known. -/
  | direction
  deriving DecidableEq

end FacetSearch.Address
