/-!
# `FacetSearch.Text.Base64`: bytes as text

Three bytes are four digits of six bits each; a group that lacks bytes is filled up with equals
signs.
-/

set_option autoImplicit false

namespace FacetSearch

/-- The digit of a number below 64. -/
def base64Digit (n : Nat) : Char :=
  if n < 26 then Char.ofNat (65 + n)
  else if n < 52 then Char.ofNat (97 + (n - 26))
  else if n < 62 then Char.ofNat (48 + (n - 52))
  else if n = 62 then '+'
  else '/'

/-- The text of bytes. -/
def base64 : List UInt8 → List Char
  | a :: b :: c :: rest =>
      let n := (a.toNat * 256 + b.toNat) * 256 + c.toNat
      base64Digit (n / 262144) :: base64Digit (n / 4096 % 64) :: base64Digit (n / 64 % 64) ::
        base64Digit (n % 64) :: base64 rest
  | [a, b] =>
      let n := a.toNat * 256 + b.toNat
      [base64Digit (n / 1024), base64Digit (n / 16 % 64), base64Digit (n % 16 * 4), '=']
  | [a] => [base64Digit (a.toNat / 4), base64Digit (a.toNat % 4 * 16), '=', '=']
  | [] => []

end FacetSearch
