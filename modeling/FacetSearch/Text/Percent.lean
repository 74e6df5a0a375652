import FacetSearch.Text.Hexadecimal

/-!
# `FacetSearch.Text.Percent`: characters as escaped bytes

Where a character is not allowed to stand, it is written as its UTF-8 bytes, each as a percent sign
and two digits. Reading goes back to bytes; a percent sign that starts no escape stands for itself.
-/

set_option autoImplicit false

namespace FacetSearch

/-- The UTF-8 bytes of a text. -/
def utf8Bytes (text : List Char) : List UInt8 := (String.ofList text).toUTF8.toList

/-- A byte as an escape, with capital digits. -/
def percentByte (byte : UInt8) : List Char := '%' :: (hexDigits 2 byte.toNat).map Char.toUpper

/-- A text in which every character outside a class is escaped. -/
def percentEncoded (safe : Char → Bool) (text : List Char) : List Char :=
  text.flatMap fun c => if safe c then [c] else (utf8Bytes [c]).flatMap percentByte

/-- The bytes of a text with escapes. -/
def percentDecoded : List Char → List UInt8
  | '%' :: a :: b :: rest =>
      match hexValue? a, hexValue? b with
      | some high, some low => UInt8.ofNat (high * 16 + low) :: percentDecoded rest
      | _, _ => utf8Bytes ['%'] ++ percentDecoded (a :: b :: rest)
  | c :: rest => utf8Bytes [c] ++ percentDecoded rest
  | [] => []

end FacetSearch
