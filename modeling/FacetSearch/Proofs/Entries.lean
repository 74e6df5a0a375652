import FacetSearch.Entries
import FacetSearch.Value
import Mathlib.Data.List.Basic
import Mathlib.Data.List.Induction

/-!
# `FacetSearch.Proofs.Entries`: what putting entries does

`Entries.putAll` puts entries with text keys one after the other. These facts describe the result
when nothing was there before:

* `keys_putAll`: its keys are the keys put, each once, in the order in which they first appear, and
  `nodup_putAll`: none of them stands there twice.
* `mem_putAll`: each of its entries was put.
* `mem_putAll_of_last`: the last entry put under a key is there, and `lookup_putAll_of_last`: it is
  what is found under the key.

So the result is known as soon as all entries that are put under one key carry one value, which is
`putAll_map`, or as soon as no key is put twice, which is `putAllBy_of_pairwise`.

A mapping whose keys are texts is the list of its fields, each as an entry (`Value.ofFields_eq`),
and it tells them (`Value.ofFields_inj`).
-/

set_option autoImplicit false

namespace FacetSearch.Entries

variable {ν : Type}

/-- Putting one more entry after the others. Entries are put from the left, so inductions over what
was put go from the right end. -/
theorem putAll_append_singleton (entries additions : List (Text × ν)) (entry : Text × ν) :
    putAll entries (additions ++ [entry])
      = putBy (· == ·) (putAll entries additions) entry.1 entry.2 := by
  simp only [putAll, putAllBy, List.foldl_append, List.foldl_cons, List.foldl_nil]

/-- Putting an entry keeps the keys when its key is there, and adds the key at the end when it is
not. -/
theorem keys_putBy (entries : List (Text × ν)) (key : Text) (value : ν) :
    (putBy (· == ·) entries key value).map (·.1)
      = if key ∈ entries.map (·.1) then entries.map (·.1) else entries.map (·.1) ++ [key] := by
  induction entries with
  | nil => rfl
  | cons entry rest ih =>
      obtain ⟨k, v⟩ := entry
      by_cases hk : k = key
      · subst hk
        simp [putBy]
      · rw [putBy, if_neg (by simpa using hk), List.map_cons, ih]
        have hk' : ¬ key = k := fun h => hk h.symm
        -- The first entry keeps its key, and the put goes on behind it.
        by_cases hmem : key ∈ rest.map (·.1)
        · rw [if_pos hmem, List.map_cons, if_pos (List.mem_cons_of_mem _ hmem)]
        · rw [if_neg hmem, List.map_cons, if_neg (by simp [hk', hmem]), List.cons_append]

/-- An entry after a put was there before, or is the one put. An entry that was there can be gone,
when it had the key of the one put. -/
theorem mem_putBy {entries : List (Text × ν)} {key : Text} {value : ν} {entry : Text × ν}
    (h : entry ∈ putBy (· == ·) entries key value) : entry ∈ entries ∨ entry = (key, value) := by
  induction entries with
  | nil => exact Or.inr (by simpa [putBy] using h)
  | cons first rest ih =>
      obtain ⟨k, v⟩ := first
      -- The put replaces the first entry if the keys are equal, and goes on behind it otherwise.
      rw [putBy] at h
      split at h
      · rename_i hk
        rw [beq_iff_eq] at hk
        subst hk
        rcases List.mem_cons.mp h with h | h
        · exact Or.inr h
        · exact Or.inl (List.mem_cons_of_mem _ h)
      · rcases List.mem_cons.mp h with h | h
        · exact Or.inl (by simp [h])
        · exact (ih h).imp (List.mem_cons_of_mem _) id

/-- The entry put is there after the put. -/
theorem mem_putBy_self (entries : List (Text × ν)) (key : Text) (value : ν) :
    (key, value) ∈ putBy (· == ·) entries key value := by
  induction entries with
  | nil => exact List.mem_singleton.mpr rfl
  | cons first rest ih =>
      obtain ⟨k, v⟩ := first
      rw [putBy]
      split
      · rename_i hk
        rw [beq_iff_eq.mp hk]
        exact List.mem_cons_self
      · exact List.mem_cons_of_mem _ ih

/-- An entry under another key is there after a put. -/
theorem mem_putBy_of_ne {entries : List (Text × ν)} {key : Text} {value : ν}
    {entry : Text × ν} (h : entry ∈ entries) (hne : entry.1 ≠ key) :
    entry ∈ putBy (· == ·) entries key value := by
  induction entries with
  | nil => cases h
  | cons first rest ih =>
      obtain ⟨k, v⟩ := first
      rw [putBy]
      rcases List.mem_cons.mp h with rfl | hrest
      · rw [if_neg (by simpa using hne)]
        exact List.mem_cons_self
      · split
        · exact List.mem_cons_of_mem _ hrest
        · exact List.mem_cons_of_mem _ (ih hrest)

/-- The keys of what was put, each once, in the order in which they first appear. Putting a key
again changes its value and not its place. -/
theorem keys_putAll (additions : List (Text × ν)) :
    (putAll [] additions).map (·.1) = (additions.map (·.1)).eraseDups := by
  induction additions using List.reverseRecOn with
  | nil => rfl
  | append_singleton additions entry ih =>
      rw [putAll_append_singleton, keys_putBy, ih, List.map_append, List.eraseDups_append]
      -- The last key is one of those before it, or it is new and comes last.
      by_cases hmem : entry.1 ∈ additions.map (·.1)
      · rw [if_pos (List.mem_eraseDups.mpr hmem)]
        simp [List.removeAll, hmem]
      · rw [if_neg (fun h => hmem (List.mem_eraseDups.mp h))]
        simp [List.removeAll, hmem, List.eraseDups_cons]

/-- No key stands twice in what was put. -/
theorem nodup_putAll (additions : List (Text × ν)) :
    ((putAll [] additions).map (·.1)).Nodup := by
  induction additions using List.reverseRecOn with
  | nil => exact List.nodup_nil
  | append_singleton additions entry ih =>
      rw [putAll_append_singleton, keys_putBy]
      split
      · exact ih
      -- A new key is none of those that are there.
      · rename_i hnew
        have hlast : [entry.1].Nodup := by simp
        refine List.nodup_append.mpr ⟨ih, hlast, fun key hkey other hother heq => hnew ?_⟩
        rw [← List.mem_singleton.mp hother, ← heq]
        exact hkey

/-- Every entry of what was put is one of the entries put. -/
theorem mem_putAll {additions : List (Text × ν)} {entry : Text × ν}
    (h : entry ∈ putAll [] additions) : entry ∈ additions := by
  induction additions using List.reverseRecOn with
  | nil => exact absurd h (by simp [putAll, putAllBy])
  | append_singleton additions last ih =>
      rw [putAll_append_singleton] at h
      rcases mem_putBy h with h | h
      · exact List.mem_append_left _ (ih h)
      · exact List.mem_append_right _ (by simp [h])

/-- The last entry that was put under a key is there: no later put is under its key, so none takes
it away. -/
theorem mem_putAll_of_last {before after : List (Text × ν)} {entry : Text × ν}
    (h : ∀ later ∈ after, later.1 ≠ entry.1) :
    entry ∈ putAll [] (before ++ entry :: after) := by
  induction after using List.reverseRecOn with
  | nil =>
      rw [putAll_append_singleton]
      exact mem_putBy_self _ entry.1 entry.2
  | append_singleton after last ih =>
      have hrest := ih fun later hlater => h later (List.mem_append_left _ hlater)
      have hlast := h last (List.mem_append_right _ (List.mem_singleton.mpr rfl))
      rw [← List.cons_append, ← List.append_assoc, putAll_append_singleton]
      exact mem_putBy_of_ne hrest hlast.symm

/-- What stands under a key: the value of the first entry if that has the key, and else what stands
under it in the rest. -/
theorem lookup_cons (key : Text) (value : ν) (rest : List (Text × ν)) (name : Text) :
    ((key, value) :: rest).lookup name = if name = key then some value else rest.lookup name := by
  rw [List.lookup_cons]
  split
  · rename_i h
    rw [if_pos (beq_iff_eq.mp h)]
  · rename_i h
    rw [if_neg (beq_eq_false_iff_ne.mp h)]

/-- What stands under a key after a put: the value put, under its own key, and else what stood there
before. -/
theorem lookup_putBy (entries : List (Text × ν)) (key : Text) (value : ν) (name : Text) :
    (putBy (· == ·) entries key value).lookup name
      = if name = key then some value else entries.lookup name := by
  induction entries with
  | nil => exact lookup_cons key value [] name
  | cons first rest ih =>
      obtain ⟨k, v⟩ := first
      rw [putBy]
      by_cases hk : k = key
      · subst hk
        rw [if_pos (beq_self_eq_true k), lookup_cons, lookup_cons]
        split <;> rfl
      · rw [if_neg (by simpa using hk), lookup_cons, lookup_cons, ih]
        -- The entry in front is under another key, so the put does not touch it.
        by_cases h : name = k
        · rw [if_pos h, if_pos h, if_neg fun heq => hk (h.symm.trans heq)]
        · rw [if_neg h, if_neg h]

/-- Under the key of the last entry that was put under it stands its value, whatever was put under
it before. -/
theorem lookup_putAll_of_last {before after : List (Text × ν)} {entry : Text × ν}
    (h : ∀ later ∈ after, later.1 ≠ entry.1) :
    (putAll [] (before ++ entry :: after)).lookup entry.1 = some entry.2 := by
  induction after using List.reverseRecOn with
  | nil => rw [putAll_append_singleton, lookup_putBy, if_pos rfl]
  | append_singleton after last ih =>
      have hlast := h last (List.mem_append_right _ (List.mem_singleton.mpr rfl))
      rw [← List.cons_append, ← List.append_assoc, putAll_append_singleton, lookup_putBy,
        if_neg hlast.symm]
      exact ih fun later hlater => h later (List.mem_append_left _ hlater)

/-- Putting a value for each key, where the value depends on the key alone, gives each key once with
its value. It does not matter then which of the puts under a key is the last. -/
theorem putAll_map (keys : List Text) (value : Text → ν) :
    putAll [] (keys.map fun key => (key, value key))
      = keys.eraseDups.map fun key => (key, value key) := by
  let put := putAll [] (keys.map fun key => (key, value key))
  have hkeys : put.map (·.1) = keys.eraseDups := by
    rw [keys_putAll, List.map_map]
    exact congrArg List.eraseDups (List.map_id keys)
  have hvalues : ∀ entry ∈ put, (entry.1, value entry.1) = entry := by
    intro entry hentry
    obtain ⟨key, -, rfl⟩ := List.mem_map.mp (mem_putAll hentry)
    rfl
  -- The keys fix the order, and each value is known from its key.
  calc put = put.map fun entry => (entry.1, value entry.1) :=
        (List.map_congr_left hvalues).trans (List.map_id put) |>.symm
    _ = (put.map (·.1)).map fun key => (key, value key) := by rw [List.map_map]; rfl
    _ = keys.eraseDups.map fun key => (key, value key) := by rw [hkeys]

/-- An entry whose key is not there is put at the end. -/
theorem putBy_of_forall_not {κ : Type} {same : κ → κ → Bool} {entries : List (κ × ν)} {key : κ}
    (h : ∀ entry ∈ entries, same entry.1 key = false) (value : ν) :
    putBy same entries key value = entries ++ [(key, value)] := by
  induction entries with
  | nil => rfl
  | cons entry rest ih =>
      obtain ⟨hentry, hrest⟩ := List.forall_mem_cons.mp h
      rw [putBy, if_neg (by rw [hentry]; decide), ih hrest, List.cons_append]

/-- Entries of which no two have one key are put as they come. This is about any notion of being one
key, as keys of mappings have one that is coarser than equality. -/
theorem putAllBy_of_pairwise {κ : Type} {same : κ → κ → Bool} {entries : List (κ × ν)}
    (h : entries.Pairwise fun entry later => same entry.1 later.1 = false) :
    putAllBy same [] entries = entries := by
  induction entries using List.reverseRecOn with
  | nil => rfl
  | append_singleton entries last ih =>
      -- The last entry is put behind the others, none of which has its key.
      rw [List.pairwise_append] at h
      have hlast : ∀ entry ∈ entries, same entry.1 last.1 = false := fun entry hentry =>
        h.2.2 entry hentry last (List.mem_singleton.mpr rfl)
      have hbefore : entries.foldl (fun acc entry => putBy same acc entry.1 entry.2) [] = entries :=
        ih h.1
      rw [putAllBy, List.foldl_append, hbefore]
      exact putBy_of_forall_not hlast last.2

/-- Entries under distinct texts are put as they come. -/
theorem putAll_of_nodup {entries : List (Text × ν)} (h : (entries.map (·.1)).Nodup) :
    putAll [] entries = entries := by
  refine putAllBy_of_pairwise ((List.pairwise_map.mp h).imp fun hne => ?_)
  exact beq_eq_false_iff_ne.mpr hne

end FacetSearch.Entries

namespace FacetSearch

/-! ### Mappings with text keys -/

/-- A field as an entry of a mapping. -/
def Value.entry (field : Text × Value) : Value × Value := (.text field.1, field.2)

/-- A mapping is the list of its fields as entries. -/
theorem Value.ofFields_eq (fields : List (Text × Value)) :
    ofFields fields = .map (fields.map entry) := rfl

/-- A mapping tells its fields, in their order: every key is the text of its field. -/
theorem Value.ofFields_inj {fields others : List (Text × Value)} :
    ofFields fields = ofFields others ↔ fields = others := by
  have hentry : Function.Injective entry := by
    rintro ⟨name, value⟩ ⟨name', value'⟩ h
    simpa [entry] using h
  rw [ofFields_eq, ofFields_eq, Value.map.injEq, (Function.Injective.list_map hentry).eq_iff]

end FacetSearch
