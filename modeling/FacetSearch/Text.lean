import FacetSearch.Text.CodePoint

/-!
# `FacetSearch.Text`: texts of any code points

Identifiers, names, searches, headers and query documents come from callers and servers, and none of
them need be Unicode text: a lone surrogate may stand anywhere in them. So they are texts of code
points. The names that the library itself uses, such as the fields of a record, are written as
string literals and are texts through `Text.ofString`.

`Text.chars?` tells the texts that can be encoded: it gives the characters of a text that has no
surrogate.
-/

set_option autoImplicit false

namespace FacetSearch

/-- A text: its code points in order. A high and a low surrogate side by side are two code points
and not the character that the pair spells. -/
structure Text where
  ofList ::
  /-- The code points of the text. -/
  toList : List CodePoint
  deriving DecidableEq

namespace Text

/-- The text of characters, which has no surrogate. -/
def ofChars (chars : List Char) : Text := ofList (chars.map .char)

/-- The text of a string. The fixed texts of the library are written as string literals and taken
for texts by it. -/
def ofString (s : String) : Text := ofChars s.toList

instance : Coe String Text := ⟨ofString⟩

instance : Inhabited Text := ⟨ofList []⟩

/-- One text after another. -/
instance : Append Text := ⟨fun a b => ofList (a.toList ++ b.toList)⟩

/-- Whether a text has no code points. A lone surrogate is one. -/
def isEmpty (t : Text) : Bool := t.toList.isEmpty

/-- The characters of a text, if it has no surrogate. One surrogate is enough for there to be
none. -/
def chars? (t : Text) : Option (List Char) := t.toList.mapM CodePoint.char?

/-- The string of a text, if it has no surrogate. This is what can be encoded. -/
def string? (t : Text) : Option String := t.chars?.map String.ofList

@[simp]
theorem toList_append (a b : Text) : (a ++ b).toList = a.toList ++ b.toList := rfl

@[simp]
theorem toList_ofChars (chars : List Char) :
    (ofChars chars).toList = chars.map CodePoint.char := rfl

@[simp]
theorem toList_ofString (s : String) :
    (ofString s).toList = s.toList.map CodePoint.char := rfl

/-- Texts of the same code points are one text. -/
theorem toList_inj {a b : Text} : a.toList = b.toList ↔ a = b := by
  cases a
  cases b
  rw [ofList.injEq]

/-- What follows two texts alike can be taken off, whatever it is. -/
theorem append_left_inj {a b : Text} (c : Text) : a ++ c = b ++ c ↔ a = b := by
  rw [← toList_inj, toList_append, toList_append, List.append_left_inj, toList_inj]

/-- What stands before two texts alike can be taken off, whatever it is. -/
theorem append_right_inj {a b : Text} (c : Text) : c ++ a = c ++ b ↔ a = b := by
  rw [← toList_inj, toList_append, toList_append, List.append_right_inj, toList_inj]

/-- Texts of characters are equal when the characters are. -/
@[simp]
theorem ofChars_inj {cs ds : List Char} : ofChars cs = ofChars ds ↔ cs = ds := by
  rw [← toList_inj, toList_ofChars, toList_ofChars]
  exact List.map_inj_right fun _ _ h => CodePoint.char.inj h

/-- The names that are written as string literals stay apart as texts, so they can be compared as
literals. -/
@[simp]
theorem ofString_inj {s t : String} : ofString s = ofString t ↔ s = t := by
  rw [ofString, ofString, ofChars_inj, String.toList_inj]

/-- A text of characters has them back. -/
@[simp]
theorem chars?_ofChars (cs : List Char) : (ofChars cs).chars? = some cs := by
  show (cs.map CodePoint.char).mapM CodePoint.char? = some cs
  induction cs with
  | nil => rfl
  | cons c rest ih =>
      rw [List.map_cons, List.mapM_cons, ih]
      rfl

/-- A text of characters is the string of them. -/
@[simp]
theorem string?_ofChars (cs : List Char) : (ofChars cs).string? = some (String.ofList cs) := by
  rw [string?, chars?_ofChars, Option.map_some]

end Text

end FacetSearch
