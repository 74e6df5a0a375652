import FacetSearch.Proofs.Catalog.Raw
import FacetSearch.Proofs.Entries
import Mathlib.Data.List.Forall2

/-!
# `FacetSearch.Proofs.Catalog.Names`: fields that are known by two names

A field of a mapping can be given under either of two names. Renaming the keys of a mapping between
the two names of their fields keeps what is given for a field: this is `field?_renamed`. It takes
two things. No two fields share a name (`Given.AreApart`), so a renamed key still gives the same
field. And the mapping gives each field once (`Given.GivesOnce`), so no second name of a field
competes with the first.

What a mapping gives under each single name is decided by the one entry that gives the field
(`Given.Gives`). `gives_renamed` finds this entry before and after a renaming, by an induction on
the entries: the two stand in the same place.
-/

set_option autoImplicit false

namespace FacetSearch

namespace Value

/-- A key that is one of the two names of a field. -/
def IsNameOf (key : Value) (field : Text × Text) : Prop :=
  key.text? = some field.1 ∨ key.text? = some field.2

instance (key : Value) (field : Text × Text) : Decidable (key.IsNameOf field) :=
  inferInstanceAs (Decidable (_ ∨ _))

/-- A key gives a field when its text is one of the names. -/
theorem isNameOf_iff {key : Value} {field : Text × Text} :
    key.IsNameOf field ↔ ∃ name ∈ [field.1, field.2], key.text? = some name := by
  unfold IsNameOf
  simp

/-- A name under which nothing stands is no key. Keys are compared by their texts here, so a key
that is a member of the enumeration counts as its text. -/
theorem get?_eq_none_iff {entries : List (Value × Value)} {name : Text} :
    get? entries name = none ↔ ∀ entry ∈ entries, entry.1.text? ≠ some name := by
  unfold get?
  simp

end Value

namespace Given

/-- What is given for a field under its names, of which the first wins. -/
def field? (given : Given) (field : Text × Text) : Option Value :=
  (Value.get? given field.1).or (Value.get? given field.2)

/-- A field with one name is what stands under it. Such a field is written with this name twice, so
that all fields have two. -/
theorem field?_one_name (given : Given) (name : Text) :
    field? given (name, name) = Value.get? given name :=
  Option.or_self

/-- Fields of which no two share a name. One field may have the same name twice. -/
def AreApart (fields : List (Text × Text)) : Prop :=
  ∀ field ∈ fields, ∀ other ∈ fields, ∀ name ∈ [field.1, field.2], name ∈ [other.1, other.2] →
    field = other

instance (fields : List (Text × Text)) : Decidable (AreApart fields) :=
  inferInstanceAs (Decidable (∀ field ∈ fields, ∀ other ∈ fields, ∀ name ∈ [field.1, field.2],
    name ∈ [other.1, other.2] → field = other))

/-- A mapping that gives each field once at most: no two of its keys are one, and no field is given
under both of its names. -/
structure GivesOnce (fields : List (Text × Text)) (given : Given) : Prop where
  keys : given.Pairwise fun entry later => entry.1.sameKey later.1 = false
  names : ∀ field ∈ fields, field.1 ≠ field.2 →
    Value.get? given field.1 = none ∨ Value.get? given field.2 = none

/-- A key that is another, or gives the same field. A key that gives no field may only stay. -/
def SameField (fields : List (Text × Text)) (key other : Value) : Prop :=
  other = key ∨ ∃ field ∈ fields, key.IsNameOf field ∧ other.IsNameOf field

/-- The entries of a mapping are kept, in their order, and keys are renamed. -/
def Renamed (fields : List (Text × Text)) (given others : Given) : Prop :=
  List.Forall₂ (fun entry other => SameField fields entry.1 other.1 ∧ other.2 = entry.2)
    given others

/-- A field is given under none of its names. -/
def Omits (given : Given) (field : Text × Text) : Prop :=
  ∀ name ∈ [field.1, field.2], Value.get? given name = none

/-- A field is given by an entry: under its name stands its value, and under the other name of the
field nothing. So the entry alone decides what is read, whichever name the reader looks for. -/
structure Gives (given : Given) (field : Text × Text) (entry : Value × Value) : Prop where
  named : entry.1.IsNameOf field
  get?_eq : ∀ name ∈ [field.1, field.2],
    Value.get? given name = if entry.1.text? = some name then some entry.2 else none

variable {fields : List (Text × Text)} {field : Text × Text}

/-- A key has one text, so of fields that are apart it gives one at most. -/
theorem AreApart.eq_of_isNameOf (hapart : AreApart fields) {field other : Text × Text}
    (hfield : field ∈ fields) (hother : other ∈ fields) {key : Value}
    (hkey : key.IsNameOf field) (hkey' : key.IsNameOf other) : field = other := by
  obtain ⟨name, hname, htext⟩ := Value.isNameOf_iff.mp hkey
  obtain ⟨name', hname', htext'⟩ := Value.isNameOf_iff.mp hkey'
  have heq : name = name' := Option.some.inj (htext.symm.trans htext')
  exact hapart field hfield other hother name hname (heq ▸ hname')

/-- A renamed key gives the fields that it gave. -/
theorem SameField.isNameOf_iff (hapart : AreApart fields) {key other : Value}
    (h : SameField fields key other) (hfield : field ∈ fields) :
    other.IsNameOf field ↔ key.IsNameOf field := by
  rcases h with rfl | ⟨g, hg, hkey, hother⟩
  · exact Iff.rfl
  · constructor
    · intro hof
      rwa [hapart.eq_of_isNameOf hfield hg hof hother]
    · intro hkf
      rwa [hapart.eq_of_isNameOf hfield hg hkf hkey]

/-! ### The entry that gives a field -/

section Entries

variable {given : Given} {entry : Value × Value}

/-- No entry gives a field that is omitted. -/
theorem omits_iff : Omits given field ↔ ∀ entry ∈ given, ¬ entry.1.IsNameOf field := by
  unfold Omits Value.IsNameOf
  simp only [Value.get?_eq_none_iff, List.mem_cons, List.not_mem_nil, or_false, forall_eq_or_imp,
    forall_eq, not_or]
  constructor
  · intro h entry hentry
    exact ⟨h.1 entry hentry, h.2 entry hentry⟩
  · intro h
    exact ⟨fun entry hentry => (h entry hentry).1, fun entry hentry => (h entry hentry).2⟩

/-- An entry that gives no name of a field changes nothing under them, so the field can be looked
for behind the entry. -/
theorem get?_cons_of_not_isNameOf (h : ¬ entry.1.IsNameOf field) {name : Text}
    (hname : name ∈ [field.1, field.2]) :
    Value.get? (entry :: given) name = Value.get? given name := by
  have hne : entry.1.text? ≠ some name := by
    intro htext
    exact h (Value.isNameOf_iff.mpr ⟨name, hname, htext⟩)
  rw [Value.get?_cons, if_neg hne]

/-- The first entry with a name of a field gives it when no later one has a name of it. -/
theorem gives_cons (hnamed : entry.1.IsNameOf field) (hrest : Omits given field) :
    Gives (entry :: given) field entry := by
  refine ⟨hnamed, ?_⟩
  intro name hname
  rw [Value.get?_cons, hrest name hname]

/-- What is given for a field is the value of the entry that gives it. -/
theorem Gives.field?_eq (h : Gives given field entry) : field? given field = some entry.2 := by
  have hfirst := h.get?_eq field.1 (by simp)
  have hsecond := h.get?_eq field.2 (by simp)
  unfold field?
  -- The entry has one of the two names, and under the other one nothing stands.
  by_cases hname : entry.1.text? = some field.1
  · simp [hfirst, hname]
  · have hother : entry.1.text? = some field.2 := h.named.resolve_left hname
    rw [hfirst, if_neg hname, hsecond, if_pos hother, Option.none_or]

/-- Nothing is given for an omitted field. -/
theorem Omits.field?_eq (h : Omits given field) : field? given field = none := by
  unfold field?
  rw [h field.1 (by simp), h field.2 (by simp), Option.none_or]

/-- A mapping with distinct names gives each field once when it does not have both names of it. This
is the form in which it can be decided of a mapping that is written out. -/
theorem GivesOnce.of_fields {pairs : List (Text × Value)} (hnames : (pairs.map (·.1)).Nodup)
    (hfields : ∀ field ∈ fields, field.1 ≠ field.2 →
      field.1 ∉ pairs.map (·.1) ∨ field.2 ∉ pairs.map (·.1)) :
    GivesOnce fields (pairs.map Value.entry) := by
  -- Nothing stands under a name that is not among the names.
  have habsent : ∀ name, name ∉ pairs.map (·.1) →
      Value.get? (pairs.map Value.entry) name = none := by
    intro name hname
    refine Value.get?_eq_none_iff.mpr fun entry hentry => ?_
    obtain ⟨pair, hpair, rfl⟩ := List.mem_map.mp hentry
    rintro ⟨rfl⟩
    exact hname (List.mem_map_of_mem hpair)
  refine ⟨?_, fun field hfield hdistinct => ?_⟩
  · rw [List.pairwise_map]
    refine (List.pairwise_map.mp hnames).imp fun {pair later} hne => ?_
    show Value.sameKey (.text pair.1) (.text later.1) = false
    rw [Value.sameKey_text]
    simpa [Value.text?] using hne
  · rcases hfields field hfield hdistinct with hfirst | hsecond
    · exact .inl (habsent _ hfirst)
    · exact .inr (habsent _ hsecond)

/-- Of the entries of a mapping that gives each field once, no two have names of one field. Two
entries with one name would be one key twice, and two entries with both names would give the field
twice. -/
theorem GivesOnce.pairwise (h : GivesOnce fields given) (hfield : field ∈ fields) :
    given.Pairwise fun entry later => ¬ (entry.1.IsNameOf field ∧ later.1.IsNameOf field) := by
  refine h.keys.imp_of_mem ?_
  intro entry later hentry hlater hdiffer hboth
  obtain ⟨name, hname, htext⟩ := Value.isNameOf_iff.mp hboth.1
  obtain ⟨name', hname', htext'⟩ := Value.isNameOf_iff.mp hboth.2
  have hne : name ≠ name' := by
    rintro rfl
    rw [Value.sameKey_of_text? htext htext'] at hdiffer
    cases hdiffer
  -- Two names of one field are its first and its second, and both stand in the mapping.
  have hgiven : Value.get? given name ≠ none := fun hnone =>
    Value.get?_eq_none_iff.mp hnone entry hentry htext
  have hgiven' : Value.get? given name' ≠ none := fun hnone =>
    Value.get?_eq_none_iff.mp hnone later hlater htext'
  simp only [List.mem_cons, List.not_mem_nil, or_false] at hname hname'
  have hdistinct : field.1 ≠ field.2 := by
    intro heq
    rcases hname with rfl | rfl <;> rcases hname' with rfl | rfl <;> simp_all
  rcases h.names field hfield hdistinct with hnone | hnone <;>
    rcases hname with rfl | rfl <;> rcases hname' with rfl | rfl <;> simp_all

end Entries

/-! ### Renaming -/

section Renaming

variable {given others : Given}

/-- **The entry that gives a field keeps its place.** Where the keys of a mapping are renamed, a
field is omitted before and after, or given before and after by entries that stand in one place. The
relation of the entries is a parameter, as the values may change along with the keys. -/
theorem gives_renamed (hapart : AreApart fields) (hfield : field ∈ fields)
    {related : Value × Value → Value × Value → Prop}
    (hkeys : ∀ entry other, related entry other → SameField fields entry.1 other.1)
    (hrelated : List.Forall₂ related given others)
    (honce : given.Pairwise fun entry later =>
      ¬ (entry.1.IsNameOf field ∧ later.1.IsNameOf field)) :
    (Omits given field ∧ Omits others field) ∨
      ∃ entry other, related entry other ∧ Gives given field entry ∧ Gives others field other := by
  induction hrelated with
  | nil =>
      have hnothing : Omits [] field := omits_iff.mpr (List.forall_mem_nil _)
      exact .inl ⟨hnothing, hnothing⟩
  | @cons entry other rest later hhead htail ih =>
      have hiff := (hkeys entry other hhead).isNameOf_iff hapart hfield
      obtain ⟨hfirst, hlater⟩ := List.pairwise_cons.mp honce
      by_cases hnamed : entry.1.IsNameOf field
      -- The field is given here, and by no later entry.
      · have homits : Omits rest field := by
          refine omits_iff.mpr fun next hnext hname => ?_
          exact hfirst next hnext ⟨hnamed, hname⟩
        rcases ih hlater with ⟨-, homits'⟩ | ⟨next, -, -, hgives, -⟩
        · exact .inr ⟨entry, other, hhead, gives_cons hnamed homits,
            gives_cons (hiff.mpr hnamed) homits'⟩
        · cases homits.field?_eq.symm.trans hgives.field?_eq
      -- The field is given later if at all, and nothing changes under its names.
      · have hnamed' : ¬ other.1.IsNameOf field := fun h => hnamed (hiff.mp h)
        rcases ih hlater with ⟨homits, homits'⟩ | ⟨next, next', hnext, hgives, hgives'⟩
        · refine .inl ⟨fun name hname => ?_, fun name hname => ?_⟩
          · rw [get?_cons_of_not_isNameOf hnamed hname, homits name hname]
          · rw [get?_cons_of_not_isNameOf hnamed' hname, homits' name hname]
        · refine .inr ⟨next, next', hnext, ⟨hgives.named, fun name hname => ?_⟩,
            ⟨hgives'.named, fun name hname => ?_⟩⟩
          · rw [get?_cons_of_not_isNameOf hnamed hname, hgives.get?_eq name hname]
          · rw [get?_cons_of_not_isNameOf hnamed' hname, hgives'.get?_eq name hname]

/-- **Renaming keys keeps what is given for a field.** -/
theorem field?_renamed (hapart : AreApart fields) (hfield : field ∈ fields)
    (honce : GivesOnce fields given) (h : Renamed fields given others) :
    field? others field = field? given field := by
  rcases gives_renamed hapart hfield (fun _ _ hentry => hentry.1) h (honce.pairwise hfield) with
    ⟨homits, homits'⟩ | ⟨entry, other, ⟨-, hvalue⟩, hgives, hgives'⟩
  · rw [homits.field?_eq, homits'.field?_eq]
  · rw [hgives.field?_eq, hgives'.field?_eq, hvalue]

end Renaming

end Given

end FacetSearch
