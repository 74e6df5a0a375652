import FacetSearch.Facets
import FacetSearch.Proofs.Grammar.Token

/-!
# `FacetSearch.Proofs.Facets.Aliases`: every field has an alias of its own

The alias of an option is the stem of its dimension, an underscore and its position. The stems
differ before the underscore and the position reads back from its digits, so `aliasAt_inj` tells
both from the alias. The alias of the total has no underscore. `nodup_aliases` follows: the aliases
of a query are pairwise distinct.
-/

set_option autoImplicit false

namespace FacetSearch

open Grammar

/-- A number reads back from its digits, so two positions with one spelling are one position. -/
theorem naturalText_inj {m n : Nat} (h : naturalText m = naturalText n) : m = n := by
  rw [← ofDigitChars_naturalText m, h, ofDigitChars_naturalText]

namespace Dimension

/-- Every dimension is among all of them, so what is said of all is said of each. -/
theorem mem_all (d : Dimension) : d ∈ all := by
  cases d <;> decide

/-- The characters of an alias: the stem of its dimension, an underscore, and the digits of the
position. -/
theorem toList_aliasAt (d : Dimension) (position : Nat) :
    (d.aliasAt position).toList
      = (d.aliasStem.toList ++ '_' :: naturalText position).map CodePoint.char := by
  rw [aliasAt, aliasWith, Text.toList_append, Text.toList_ofString, Text.toList_ofChars,
    String.toList_append, List.map_append, List.map_append, List.append_assoc]
  rfl

/-- An alias tells its dimension and its position. This is what lets the decoder read a count
without a record of which option it was written for. -/
theorem aliasAt_inj {d e : Dimension} {i j : Nat} (h : d.aliasAt i = e.aliasAt j) :
    d = e ∧ i = j := by
  have htext : d.aliasStem.toList ++ '_' :: naturalText i
      = e.aliasStem.toList ++ '_' :: naturalText j :=
    Text.ofChars_inj.mp (Text.toList_inj.mp
      ((toList_aliasAt d i).symm.trans (h ▸ toList_aliasAt e j)))
  -- The stems differ before the underscore.
  have hdimension : d = e := by
    cases d <;> cases e <;> first | rfl | simp [aliasStem] at htext
  subst hdimension
  -- With the stem and the underscore gone, only the digits of the positions are left.
  have hdigits := (List.cons.inj (List.append_cancel_left htext)).2
  exact ⟨rfl, naturalText_inj hdigits⟩

/-- No option has the alias of the total: its alias has an underscore, and `total` has none. -/
theorem aliasAt_ne_total (d : Dimension) (position : Nat) : d.aliasAt position ≠ totalAlias := by
  intro h
  have htext : (d.aliasStem.toList ++ '_' :: naturalText position).map CodePoint.char
      = totalAlias.toList := by
    rw [← toList_aliasAt, h]
  -- Every stem differs from `total` within the first letters, so each case is decided there.
  cases d <;> simp [aliasStem, totalAlias] at htext

/-- An alias is a name of the query language, so a line can start with it unquoted. -/
theorem isName_aliasAt (d : Dimension) (position : Nat) : isName (d.aliasAt position) = true := by
  have hdigits : ((naturalText position).map CodePoint.char).all isNameChar = true := by
    rw [List.all_map]
    refine List.all_eq_true.mpr fun c hc => ?_
    have hdigit : isDigit (.char c) = true := isDigit_of_mem_naturalText hc
    rw [Function.comp_apply, isNameChar, hdigit, Bool.or_true]
  rw [isName, toList_aliasAt, List.map_append, List.map_cons]
  cases d <;> simp [aliasStem, hdigits] <;> decide

end Dimension

namespace FacetQuery

/-- The heading of a query, with the opening brace of its selection set. -/
def heading (names : FacetNames) : Text := "query " ++ names.operationName ++ " \x7b"

/-- The aliases of the options of a dimension, in order. Which options they are makes no difference,
only how many. -/
def dimensionAliases (options : FacetOptions) (d : Dimension) : List Text :=
  (List.range (options d).length).map d.aliasAt

/-- The aliases of a query are those of the options, dimension by dimension, and last that of the
total. They depend on the number of options alone, not on what these are. -/
theorem aliases_ofOptions (names : FacetNames) (s : Selection) (options : FacetOptions) :
    (ofOptions names s options).aliases
      = Dimension.all.flatMap (dimensionAliases options) ++ [totalAlias] := by
  have hdimension : ∀ d, (dimensionFields s options d).map (·.1) = dimensionAliases options d := by
    intro d
    rw [dimensionFields, dimensionAliases]
    refine List.ext_getElem (by simp) fun position h₁ h₂ => ?_
    simp
  show (fields s options).map (·.1) = _
  rw [fields, List.map_append, List.map_flatMap]
  simp only [hdimension]
  rfl

/-- The aliases of a query are pairwise distinct, so that no count of a reply stands for two
fields. -/
theorem nodup_aliases (names : FacetNames) (s : Selection) (options : FacetOptions) :
    (ofOptions names s options).aliases.Nodup := by
  have hmem : ∀ {d name}, name ∈ dimensionAliases options d → ∃ i, d.aliasAt i = name := by
    intro d name h
    obtain ⟨i, -, hi⟩ := List.mem_map.mp h
    exact ⟨i, hi⟩
  -- Three ways to meet: in one dimension, in two dimensions, and with the total.
  rw [aliases_ofOptions, List.nodup_append]
  refine ⟨?_, List.nodup_singleton _, ?_⟩
  · rw [List.nodup_flatMap]
    refine ⟨fun d _ => ?_, ?_⟩
    · exact List.nodup_range.map fun i j h => (Dimension.aliasAt_inj h).2
    · have hdistinct : Dimension.all.Nodup := by decide
      refine hdistinct.imp fun {d e} hne name hd he => ?_
      obtain ⟨i, hi⟩ := hmem hd
      obtain ⟨j, hj⟩ := hmem he
      exact hne (Dimension.aliasAt_inj (hi.trans hj.symm)).1
  · intro name hname total htotal heq
    obtain ⟨d, -, hd⟩ := List.mem_flatMap.mp hname
    obtain ⟨i, hi⟩ := hmem hd
    rw [List.mem_singleton] at htotal
    exact Dimension.aliasAt_ne_total d i (hi.trans (heq.trans htotal))

end FacetQuery

end FacetSearch
