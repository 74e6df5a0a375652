import FacetSearch.Proofs.Text.Joined
import FacetSearch.Text
import FacetSearch.Text.Quoted

/-!
# `FacetSearch.Proofs.Text.Unicode`: texts that can be encoded

UTF-8 writes characters and no surrogates. So a text can be encoded exactly when its code points are
characters, all of them: `Text.isUnicode_iff` gives the characters, and `Text.string?_of_isUnicode`
the string that is encoded.

What the library writes, it puts together of pieces one after another, of pieces with commas between
them, and of quoted strings. `CodePoint.AreChars` is kept by each of these, so a document or a body
has no surrogate unless one of the texts in it has.
-/

set_option autoImplicit false

namespace FacetSearch

namespace CodePoint

/-- Code points that are characters, all of them. -/
def AreChars (points : List CodePoint) : Prop := ∀ point ∈ points, ∃ c, point = .char c

/-- Characters are, whatever characters they are. -/
@[simp]
theorem areChars_map (chars : List Char) : AreChars (chars.map .char) := by
  intro point hpoint
  obtain ⟨c, -, rfl⟩ := List.mem_map.mp hpoint
  exact ⟨c, rfl⟩

/-- Nothing has no surrogate. -/
@[simp]
theorem areChars_nil : AreChars [] := List.forall_mem_nil _

/-- A character in front makes no difference. -/
@[simp]
theorem areChars_char_cons (c : Char) (rest : List CodePoint) :
    AreChars (.char c :: rest) ↔ AreChars rest :=
  List.forall_mem_cons.trans (and_iff_right ⟨c, rfl⟩)

/-- Two runs have no surrogate when neither has, so what is put together is judged by its parts. -/
@[simp]
theorem areChars_append (a b : List CodePoint) : AreChars (a ++ b) ↔ AreChars a ∧ AreChars b :=
  List.forall_mem_append

/-- Pieces have no surrogate together when none of them has, and the separator has none. The
separators of the library are commas and blanks. -/
theorem areChars_joined {separator : List CodePoint} (hseparator : AreChars separator)
    {pieces : List (List CodePoint)} (h : ∀ piece ∈ pieces, AreChars piece) :
    AreChars (joined separator pieces) := by
  intro point hpoint
  rcases mem_joined hpoint with hmem | ⟨piece, hpiece, hmem⟩
  · exact hseparator point hmem
  · exact h piece hpiece point hmem

/-- Quoting escapes characters by characters. A surrogate is left as it is between the quotes, and
keeps the text from being encoded. -/
theorem areChars_jsonQuoted {content : List CodePoint} (h : AreChars content) :
    AreChars (jsonQuoted content) := by
  have hbody : AreChars (content.flatMap jsonPoint) := by
    intro point hpoint
    obtain ⟨source, hsource, hmem⟩ := List.mem_flatMap.mp hpoint
    obtain ⟨c, rfl⟩ := h source hsource
    exact areChars_map (jsonEscape c) point hmem
  simp [jsonQuoted, hbody]

end CodePoint

namespace Text

/-- A text that has no surrogate. -/
def IsUnicode (t : Text) : Prop := CodePoint.AreChars t.toList

/-- A text without surrogates is one of characters. This gives the characters, where the definition
only says that there is one at each place. -/
theorem isUnicode_iff {t : Text} : t.IsUnicode ↔ ∃ chars, t = ofChars chars := by
  constructor
  · intro h
    obtain ⟨points⟩ := t
    -- The characters are collected from the front.
    induction points with
    | nil => exact ⟨[], rfl⟩
    | cons point rest ih =>
        obtain ⟨c, hc⟩ := h point List.mem_cons_self
        obtain ⟨chars, hchars⟩ := ih fun p hp => h p (List.mem_cons_of_mem _ hp)
        refine ⟨c :: chars, ?_⟩
        rw [hc, ofList.inj hchars]
        rfl
  · rintro ⟨chars, rfl⟩
    exact CodePoint.areChars_map chars

/-- What a string literal spells is Unicode, so the fixed texts of the library never keep a request
from being sent. -/
@[simp]
theorem isUnicode_ofString (s : String) : IsUnicode s := isUnicode_iff.mpr ⟨s.toList, rfl⟩

/-- Two texts are Unicode together when both are, since nothing joins across the seam. -/
@[simp]
theorem isUnicode_append (a b : Text) : (a ++ b).IsUnicode ↔ a.IsUnicode ∧ b.IsUnicode :=
  CodePoint.areChars_append a.toList b.toList

/-- A text without surrogates is the text of a string, which is the one that is encoded. -/
theorem string?_of_isUnicode {t : Text} (h : t.IsUnicode) :
    ∃ s : String, t.string? = some s ∧ t = s := by
  obtain ⟨chars, rfl⟩ := isUnicode_iff.mp h
  refine ⟨String.ofList chars, string?_ofChars chars, ?_⟩
  rw [ofString, String.toList_ofList]

end Text

end FacetSearch
