import FacetSearch.Proofs.Text.CodePoint
import FacetSearch.Text.Encoding

/-!
# `FacetSearch.Proofs.Text.Encoding`: bodies that are held as text

The encoding of a body is told from the zeros among its first bytes. A text that starts with two
ASCII characters has none of them there, so it is taken as it is: `bodyPoints?_ofList`. Every JSON
object starts so.
-/

set_option autoImplicit false

namespace FacetSearch

/-- The bytes that remain to be listed, in front of which stand those listed. The loop keeps what it
has listed in reverse, and goes on from a position. -/
theorem toList_loop (bytes : ByteArray) (position : Nat) (listed : List UInt8) :
    ByteArray.toList.loop bytes position listed
      = listed.reverse ++ bytes.data.toList.drop position := by
  -- Along the loop. Each round moves the byte at the position from the remaining ones to the listed
  -- ones.
  induction position, listed using ByteArray.toList.loop.induct bytes with
  | case1 position listed hlt ih =>
      have hposition : position < bytes.data.toList.length := by simpa using hlt
      have hbyte : bytes.get! position = bytes.data.toList[position] := by
        rw [Array.getElem_toList]
        exact getElem!_pos bytes.data position (by simpa using hlt)
      rw [ByteArray.toList.loop, if_pos hlt, ih, List.drop_eq_getElem_cons hposition, hbyte,
        List.reverse_cons, List.append_assoc, List.singleton_append]
  | case2 position listed hge =>
      have hposition : bytes.data.toList.length ≤ position := by simpa using hge
      rw [ByteArray.toList.loop, if_neg hge, List.drop_eq_nil_of_le hposition, List.append_nil]

/-- The bytes of a text are those of its characters, one after the other, so its first bytes are
those of its first character. -/
theorem toList_toUTF8 (text : List Char) :
    (String.ofList text).toUTF8.toList = text.flatMap String.utf8EncodeChar := by
  show ByteArray.toList.loop _ 0 [] = _
  rw [toList_loop]
  show (String.ofList text).toByteArray.data.toList = _
  rw [String.toByteArray_ofList, List.utf8Encode, List.toList_data_toByteArray]

/-- An ASCII character is one byte. Only the first of them is the zero byte, and that one is left
out here. -/
theorem utf8EncodeChar_of_lt {c : Char} (hpos : 0 < c.toNat) (hlt : c.toNat < 128) :
    ∃ byte, String.utf8EncodeChar c = [byte] ∧ byte ≠ 0 := by
  refine ⟨c.val.toUInt8, String.utf8EncodeChar_eq_singleton ?_, ?_⟩
  · rw [Char.utf8Size_eq_one_iff]
    exact UInt32.le_iff_toNat_le.mpr (Nat.le_of_lt_succ hlt)
  · intro hzero
    have hnat : c.val.toUInt8.toNat = c.toNat % 256 := UInt32.toNat_toUInt8 c.val
    rw [hzero] at hnat
    have hmod : 0 = c.toNat % 256 := hnat
    omega

/-- Bytes of which the first two are not zero are taken for UTF-8. Only the first four bytes are
looked at, and the wider encodings of ASCII have a zero among the first two. -/
theorem detect_of_ne_zero {a b : UInt8} (ha : a ≠ 0) (hb : b ≠ 0) (rest : List UInt8) :
    Encoding.detect (a :: b :: rest) = .utf8 := by
  match rest with
  | [] => rw [Encoding.detect, if_neg ha, if_neg hb]
  | [_] => rfl
  | _ :: _ :: _ => rw [Encoding.detect, if_neg ha, if_neg hb]

/-- A body that starts with two ASCII characters is its characters: neither is its encoding
mistaken, nor does it start with a mark that would be dropped. -/
theorem bodyPoints?_ofList {first second : Char} (hfirst : 0 < first.toNat ∧ first.toNat < 128)
    (hsecond : 0 < second.toNat ∧ second.toNat < 128) (rest : List Char) :
    bodyPoints? (String.ofList (first :: second :: rest))
      = some ((first :: second :: rest).map .char) := by
  obtain ⟨a, ha, hane⟩ := utf8EncodeChar_of_lt hfirst.1 hfirst.2
  obtain ⟨b, hb, hbne⟩ := utf8EncodeChar_of_lt hsecond.1 hsecond.2
  have hdetect :
      Encoding.detect (String.ofList (first :: second :: rest)).toUTF8.toList = .utf8 := by
    rw [toList_toUTF8, List.flatMap_cons, List.flatMap_cons, ha, hb]
    exact detect_of_ne_zero hane hbne _
  -- A byte order mark is no ASCII character.
  have hmark : first ≠ Char.ofNat 65279 := by
    rintro rfl
    exact absurd hfirst.2 (by decide)
  rw [bodyPoints?, hdetect, String.toList_ofList]
  simp [hmark]

end FacetSearch
