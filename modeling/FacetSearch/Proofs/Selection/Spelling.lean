import FacetSearch.Proofs.Text.Blank
import FacetSearch.Selection.Conditions

/-!
# `FacetSearch.Proofs.Selection.Spelling`: ways to choose the same

Any value can be taken for a selection, and many choose the same. Nothing is chosen in a dimension
that is missing, that holds an empty list, or that holds no list. Nothing is searched for when the
search is missing, is no text or is blank, and blanks around a search are trimmed. `SameChoice` and
`SameSearch` say this of what a choice gives under a name, and two choices that are the same in this
sense have the same active filters (`values_eq_of_sameChoice`, `normalizedSearch_eq_of_sameSearch`).
-/

set_option autoImplicit false

namespace FacetSearch

namespace Value

/-- What a choice gives in a dimension: a selection its field, a mapping the value of its key, and
anything else nothing. This is what is read before it is checked. -/
def givenIn (choice : Value) (d : Dimension) : Option Value :=
  match choice with
  | .selection s => (s.chosen d).map .list
  | .map entries => get? entries d.text
  | _ => none

/-- What a choice gives as its search, before it is asked whether this is a text. -/
def givenSearch (choice : Value) : Option Value :=
  match choice with
  | .selection s => s.search.map .text
  | .map entries => get? entries "search"
  | _ => none

end Value

/-- Nothing is chosen: the dimension is missing, or holds an empty list, or no list. -/
inductive IsUnchosen : Option Value → Prop
  | missing : IsUnchosen none
  | empty {v : Value} (h : v.sequence? = some []) : IsUnchosen (some v)
  | noList {v : Value} (h : v.sequence? = none) : IsUnchosen (some v)

/-- Two ways to choose the same in a dimension: the same value, or two values that choose
nothing. -/
inductive SameChoice : Option Value → Option Value → Prop
  | refl (given : Option Value) : SameChoice given given
  | unchosen {given other : Option Value} (h : IsUnchosen given) (h' : IsUnchosen other) :
      SameChoice given other

/-- Nothing is searched for: the search is missing, or no text, or blank. -/
inductive IsUnsearched : Option Value → Prop
  | missing : IsUnsearched none
  | noText {v : Value} (h : v.text? = none) : IsUnsearched (some v)
  | blank {v : Value} {content : Text} (htext : v.text? = some content)
      (hblank : content.toList.all CodePoint.isBlank = true) : IsUnsearched (some v)

/-- Two ways to search for the same: the same value, two that search for nothing, or one text with
other blanks around it. -/
inductive SameSearch : Option Value → Option Value → Prop
  | refl (given : Option Value) : SameSearch given given
  | unsearched {given other : Option Value} (h : IsUnsearched given) (h' : IsUnsearched other) :
      SameSearch given other
  | padded {v w : Value} {lead content trail : Text}
      (hlead : lead.toList.all CodePoint.isBlank = true)
      (htrail : trail.toList.all CodePoint.isBlank = true) (hv : v.text? = some content)
      (hw : w.text? = some (lead ++ content ++ trail)) : SameSearch (some v) (some w)

namespace Selection

/-- The values chosen in a dimension are the items of what is given in it. A text is no list, so its
characters are not taken for items. -/
theorem values_coerce (choice : Value) (d : Dimension) :
    (coerce choice).values d = ((choice.givenIn d).bind Value.sequence?).getD [] := by
  cases choice with
  | selection s =>
      show (s.chosen d).getD [] = (((s.chosen d).map Value.list).bind Value.sequence?).getD []
      cases s.chosen d <;> rfl
  | map entries => cases d <;> rfl
  | _ => cases d <;> rfl

/-- The text that is left of a search, after it was trimmed. There is none when the search is no
text or nothing is left. -/
def searchOf (given : Option Value) : Option Text :=
  normalizedSearch { search := given.bind Value.text? }

/-- The search of a choice is what is left of the search that is given. -/
theorem normalizedSearch_coerce (choice : Value) :
    (coerce choice).normalizedSearch = searchOf choice.givenSearch := by
  cases choice with
  | selection s =>
      show s.normalizedSearch = searchOf (s.search.map Value.text)
      rw [searchOf, normalizedSearch, normalizedSearch]
      cases s.search <;> rfl
  | _ => rfl

/-- Nothing is left of a search for nothing, in each of the ways to search for nothing. -/
theorem searchOf_of_isUnsearched {given : Option Value} (h : IsUnsearched given) :
    searchOf given = none := by
  cases h with
  | missing => rfl
  | noText h => rw [searchOf, Option.bind_some, h]; rfl
  | blank htext hblank =>
      rw [searchOf, Option.bind_some, htext, normalizedSearch]
      simp only [trimBlanks, trimBy_of_all hblank]
      rfl

/-- The same choice in a dimension gives the same values, however it is spelled. -/
theorem values_eq_of_sameChoice {choice other : Value} {d : Dimension}
    (h : SameChoice (choice.givenIn d) (other.givenIn d)) :
    (coerce choice).values d = (coerce other).values d := by
  -- Whatever counts as no choice gives no values.
  have hnone : ∀ given, IsUnchosen given → (given.bind Value.sequence?).getD [] = [] := by
    intro given hgiven
    cases hgiven with
    | missing => rfl
    | empty h => rw [Option.bind_some, h]; rfl
    | noList h => rw [Option.bind_some, h]; rfl
  rw [values_coerce, values_coerce]
  generalize choice.givenIn d = given at h
  generalize other.givenIn d = given' at h
  cases h with
  | refl => rfl
  | unchosen h h' => rw [hnone _ h, hnone _ h']

/-- The same search leaves the same text: blanks around it are trimmed from both. -/
theorem normalizedSearch_eq_of_sameSearch {choice other : Value}
    (h : SameSearch choice.givenSearch other.givenSearch) :
    (coerce choice).normalizedSearch = (coerce other).normalizedSearch := by
  rw [normalizedSearch_coerce, normalizedSearch_coerce]
  generalize choice.givenSearch = given at h
  generalize other.givenSearch = given' at h
  -- Either both are the same, or neither is a search, or they differ in blanks around the text.
  cases h with
  | refl => rfl
  | unsearched h h' => rw [searchOf_of_isUnsearched h, searchOf_of_isUnsearched h']
  | padded hlead htrail hv hw =>
      rw [searchOf, searchOf, Option.bind_some, Option.bind_some, hv, hw, normalizedSearch,
        normalizedSearch]
      simp only [trimBlanks, Text.toList_append, trimBy_padded hlead htrail]
      rfl

end Selection

end FacetSearch
