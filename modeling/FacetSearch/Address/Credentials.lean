import FacetSearch.Address
import FacetSearch.Text.Base64
import FacetSearch.Text.Repaired

/-!
# `FacetSearch.Address.Credentials`: users named in addresses

The user information of an address is a user name and, after a colon, a password. A request to such
an address carries both in a header, and it carries none if both are empty.
-/

set_option autoImplicit false

namespace FacetSearch.Address

/-- The bytes of a part of the user information. -/
def userBytes (part : List Char) : List UInt8 := repairedUtf8 (percentDecoded part)

/-- The credentials of an address as the value of a header. -/
def credentials? (a : Address) : Option String :=
  let user := userBytes (a.userInfo.takeWhile (· != ':'))
  let password := userBytes ((a.userInfo.dropWhile (· != ':')).drop 1)
  if user.isEmpty && password.isEmpty then none
  else some ("Basic " ++ String.ofList (base64 (user ++ utf8Bytes [':'] ++ password)))

end FacetSearch.Address
