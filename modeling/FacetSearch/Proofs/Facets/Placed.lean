import FacetSearch.Proofs.Catalog.Raw
import FacetSearch.Proofs.Facets.Decoded
import Mathlib.Data.List.Find

/-!
# `FacetSearch.Proofs.Facets.Placed`: where the counts of a reply go

A reply is taken as it is when it has a total, or nothing under `data` that could be its content
(`FacetOptions.IsBare`). The main fact `decode_isBare` says what becomes of it. Each id of a
dimension has one count, at the place of its first option and from the alias of its last one. The
table depends on the entries under the aliases of the query and on nothing else of the reply: an
entry in the place of another changes the count of one option at most, the order of entries changes
nothing, and other entries, an envelope among them, change nothing either.

`lookup_numbers` reads one count off a dimension, and `decode_congr` says that a decoded table
depends on the entries under the aliases alone.
-/

set_option autoImplicit false

namespace FacetSearch

/-- What stands under a text does not depend on the order of the entries of a mapping, in which no
two keys are one. -/
theorem Value.get?_perm {entries others : List (Value × Value)} (h : others.Perm entries)
    (hkeys : entries.Pairwise fun entry later => entry.1.sameKey later.1 = false) (name : Text) :
    Value.get? others name = Value.get? entries name := by
  let isNamed (entry : Value × Value) : Bool := entry.1.text? == some name
  have hdistinct : entries.Pairwise fun entry later => ¬ (isNamed entry ∧ isNamed later) := by
    refine hkeys.imp fun {entry later} hdiffer hnamed => ?_
    have hsame := sameKey_of_text? (beq_iff_eq.mp hnamed.1) (beq_iff_eq.mp hnamed.2)
    rw [hdiffer] at hsame
    cases hsame
  -- Looking up finds the first entry with the name; with one such entry the order is nothing.
  have hone : {entry ∈ entries | isNamed entry}.Subsingleton := by
    intro entry hentry later hlater
    by_contra hne
    have hsymm : Std.Symm fun entry later : Value × Value => ¬ (isNamed entry ∧ isNamed later) :=
      ⟨fun _ _ hnot hboth => hnot hboth.symm⟩
    exact hdistinct.forall hentry.1 hlater.1 hne ⟨hentry.2, hlater.2⟩
  rw [Value.get?, Value.get?, List.find?_eq_find?_of_perm h.symm hone]

/-- The count of an id in a dimension, if the table has one. -/
def CountTable.count? (t : CountTable) (d : Dimension) (id : Text) : Option Int :=
  (t.counts d).lookup id

namespace FacetOptions

/-- A position is the last one at which a list of options has an id. -/
structure IsLastAt (rows : List Choice) (id : Text) (position : Nat) : Prop where
  id_eq : rows[position]?.map Choice.id = some id
  later : ∀ next, position < next → rows[next]?.map Choice.id ≠ some id

/-- An id that occurs in a list of options occurs there for the last time. By induction on the
options: it is in the rest, or else at the front and nowhere later. -/
theorem exists_isLastAt {rows : List Choice} {id : Text} (h : id ∈ rows.map Choice.id) :
    ∃ position, IsLastAt rows id position := by
  induction rows with
  | nil => cases h
  | cons row rest ih =>
      -- Whether the id comes again decides where its last place is.
      by_cases hrest : id ∈ rest.map Choice.id
      · obtain ⟨position, hid, hlater⟩ := ih hrest
        refine ⟨position + 1, hid, fun next hnext => ?_⟩
        obtain ⟨before, rfl⟩ := Nat.exists_eq_add_of_lt hnext
        exact hlater _ (by omega)
      · have hrow : id = row.id := (List.mem_cons.mp h).resolve_right hrest
        refine ⟨0, congrArg some hrow.symm, fun next hnext => ?_⟩
        obtain ⟨before, rfl⟩ := Nat.exists_eq_add_of_lt hnext
        intro heq
        rw [← List.getElem?_map, Nat.zero_add, List.map_cons, List.getElem?_cons_succ] at heq
        exact hrest (List.mem_of_getElem? heq)

/-- The options up to the last one with an id, that one, and the options after it. The lemmas on
putting entries into a table speak of such a split. -/
theorem IsLastAt.exists_split {rows : List Choice} {id : Text} {position : Nat}
    (h : IsLastAt rows id position) :
    ∃ before row after, rows = before ++ row :: after ∧ before.length = position ∧ row.id = id ∧
      ∀ later ∈ after, later.id ≠ id := by
  obtain ⟨row, hrow, hid⟩ := Option.map_eq_some_iff.mp h.id_eq
  obtain ⟨hlt, rfl⟩ := List.getElem?_eq_some_iff.mp hrow
  refine ⟨rows.take position, rows[position], rows.drop (position + 1), ?_,
    List.length_take_of_le hlt.le, hid, fun later hlater heq => ?_⟩
  · rw [← List.drop_eq_getElem_cons hlt, List.take_append_drop]
  · obtain ⟨offset, hoffset⟩ := List.getElem?_of_mem hlater
    rw [List.getElem?_drop] at hoffset
    refine h.later (position + 1 + offset) (by omega) ?_
    rw [hoffset, Option.map_some, heq]

/-- A reply that is taken as it is: it has a total, or no mapping under `data`. -/
def IsBare (reply : List (Value × Value)) : Prop :=
  (Value.get? reply totalAlias).isSome ∨ ∀ inner, Value.get? reply "data" ≠ some (.map inner)

/-- A bare reply is its own mapping of aliases: only a mapping under `data`, in a reply without a
total, is looked into. -/
theorem payload_of_isBare {reply : List (Value × Value)} (h : IsBare reply) :
    payload (.map reply) = reply := by
  rw [payload]
  split
  · rename_i inner htotal hdata
    rcases h with h | h
    · rw [htotal] at h
      cases h
    · exact absurd hdata (h inner)
  · rfl

/-- An envelope without a total of its own is opened. -/
theorem payload_of_data {envelope reply : List (Value × Value)}
    (htotal : Value.get? envelope totalAlias = none)
    (hdata : Value.get? envelope "data" = some (.map reply)) :
    payload (.map envelope) = reply := by
  rw [payload, htotal, hdata]

variable (options : FacetOptions) {entries others : List (Value × Value)} (d : Dimension)

/-- The count of an id is the number under the alias of its last option. Ids may repeat in a
catalog, and the decoder puts the counts in the order of the options. -/
theorem lookup_numbers {id : Text} {position : Nat} (h : IsLastAt (options d) id position) :
    (numbers options entries d).lookup id = some (numberUnder entries (d.aliasAt position)) := by
  obtain ⟨before, row, after, hrows, rfl, rfl, hlater⟩ := h.exists_split
  rw [numbers, hrows, List.mapIdx_append, List.mapIdx_cons, Nat.zero_add]
  -- A later entry under the id would come from a later option with it.
  let counted : Text × Int := (row.id, numberUnder entries (d.aliasAt before.length))
  show (Entries.putAll [] (_ ++ counted :: _)).lookup counted.1 = some counted.2
  refine Entries.lookup_putAll_of_last fun later hmem => ?_
  obtain ⟨offset, hlt, rfl⟩ := List.mem_mapIdx.mp hmem
  exact hlater _ (List.getElem_mem hlt)

/-- An id that no option has, has no count, even when the reply holds a count for it. -/
theorem lookup_numbers_of_not_mem {id : Text} (h : id ∉ (options d).map Choice.id) :
    (numbers options entries d).lookup id = none := by
  refine List.lookup_eq_none_iff.mpr fun counted hcounted => ?_
  refine bne_iff_ne.mpr fun heq => h ?_
  rw [← List.mem_eraseDups, ← keys_numbers options entries d, heq]
  exact List.mem_map_of_mem hcounted

/-- The count under an alias is read from its entry alone. -/
theorem countUnder?_congr {name : Text}
    (h : Value.get? others name = Value.get? entries name) :
    countUnder? others name = countUnder? entries name := by
  rw [countUnder?, countUnder?, h]

/-- The number under an alias is read from its entry alone. -/
theorem numberUnder_congr {name : Text}
    (h : Value.get? others name = Value.get? entries name) :
    numberUnder others name = numberUnder entries name := by
  rw [numberUnder, numberUnder, countUnder?_congr h]

/-- The alias of an option is an alias of the query. -/
theorem aliasAt_mem_aliases {position : Nat} (h : position < (options d).length) :
    d.aliasAt position ∈ options.aliases := by
  refine List.mem_append_left _ (List.mem_flatMap.mpr ⟨d, d.mem_all, ?_⟩)
  exact List.mem_map_of_mem (List.mem_range.mpr h)

/-- The alias of the total is an alias of the query. -/
theorem total_mem_aliases : totalAlias ∈ options.aliases :=
  List.mem_append_right _ (List.mem_singleton.mpr rfl)

/-- The numbers of a dimension are read from the entries under the aliases alone. Two replies that
agree there cannot be told apart by the decoder. -/
theorem numbers_congr
    (h : ∀ name ∈ options.aliases, Value.get? others name = Value.get? entries name) :
    numbers options others d = numbers options entries d := by
  refine congrArg (Entries.putAll []) (List.ext_getElem (by simp) fun position h₁ h₂ => ?_)
  have hlt : position < (options d).length := by simpa using h₁
  simp only [List.getElem_mapIdx, numberUnder_congr (h _ (aliasAt_mem_aliases options d hlt))]

/-- A reply without infinite counts under the aliases decodes to the table of their numbers. -/
theorem decode_of_payload {raw : Value} (hpayload : payload raw = entries)
    (hfinite : ∀ name ∈ options.aliases, isFiniteUnder entries name = true) :
    options.decode raw = .ok (numberTable options raw) := by
  subst hpayload
  exact (decode_eq_ok_iff options raw _).mpr ⟨hfinite, rfl⟩

/-- Replies decode to one table when they have the same entries under the aliases. The order of
entries, other entries and envelopes are all instances of this. -/
theorem decode_congr {raw other : Value} (hpayload : payload raw = entries)
    (hother : payload other = others)
    (hfinite : ∀ name ∈ options.aliases, isFiniteUnder entries name = true)
    (h : ∀ name ∈ options.aliases, Value.get? others name = Value.get? entries name) :
    options.decode other = .ok (numberTable options raw) := by
  have hfinite' : ∀ name ∈ options.aliases, isFiniteUnder others name = true :=
    fun name hname => by
      rw [isFiniteUnder, countUnder?_congr (h name hname)]
      exact hfinite name hname
  have htable : numberTable options other = numberTable options raw := by
    rw [numberTable, numberTable, hpayload, hother]
    simp only [numbers_congr options _ h, numberUnder_congr (h _ (total_mem_aliases options))]
  rw [decode_of_payload options hother hfinite', htable]

/-- Two tables differ in one place at most, the one that is read from an alias: the count of the
last option with an id, if that has the alias, or the total, if it is the alias of the total. -/
structure DifferAt (options : FacetOptions) (name : Text) (table other : CountTable) : Prop where
  counts : ∀ d id, table.count? d id ≠ other.count? d id →
    ∃ position, IsLastAt (options d) id position ∧ d.aliasAt position = name
  total : table.total ≠ other.total → totalAlias = name

/-- Of tables that differ at an alias, one count differs at most: the alias tells the dimension and
the position, and so the id. -/
theorem DifferAt.unique {options : FacetOptions} {name : Text} {table other : CountTable}
    (h : DifferAt options name table other) {d e : Dimension} {id id' : Text}
    (hd : table.count? d id ≠ other.count? d id) (he : table.count? e id' ≠ other.count? e id') :
    d = e ∧ id = id' := by
  obtain ⟨i, hi, hname⟩ := h.counts d id hd
  obtain ⟨j, hj, hname'⟩ := h.counts e id' he
  obtain ⟨rfl, rfl⟩ := Dimension.aliasAt_inj (hname.trans hname'.symm)
  exact ⟨rfl, Option.some.inj (hi.id_eq.symm.trans hj.id_eq)⟩

/-- Replies that differ under one alias alone decode to tables that differ at it. A count elsewhere
is read from an entry that is the same in both. -/
theorem differAt_numberTable {raw other : Value} {name : Text}
    (h : ∀ n ∈ options.aliases, n ≠ name →
      Value.get? (payload other) n = Value.get? (payload raw) n) :
    DifferAt options name (numberTable options raw) (numberTable options other) where
  counts d id hdiffer := by
    rw [CountTable.count?, CountTable.count?, counts_numberTable, counts_numberTable] at hdiffer
    -- A count differs for an id that the options have; other ids have no count in either table.
    by_cases hid : id ∈ (options d).map Choice.id
    · obtain ⟨position, hlast⟩ := exists_isLastAt hid
      refine ⟨position, hlast, ?_⟩
      by_contra hne
      -- The option is there, so its alias is one of the query, and its entry the same in both.
      have hlt : position < (options d).length := by
        obtain ⟨row, hrow, -⟩ := Option.map_eq_some_iff.mp hlast.id_eq
        exact (List.getElem?_eq_some_iff.mp hrow).1
      have hsame := numberUnder_congr (h _ (aliasAt_mem_aliases options d hlt) hne)
      rw [lookup_numbers options d hlast, lookup_numbers options d hlast, hsame] at hdiffer
      exact hdiffer rfl
    · rw [lookup_numbers_of_not_mem options d hid, lookup_numbers_of_not_mem options d hid]
        at hdiffer
      exact absurd rfl hdiffer
  total hdiffer := by
    by_contra hne
    exact hdiffer (numberUnder_congr (h _ (total_mem_aliases options) hne)).symm

/-- **Where the counts of a reply go.** A bare reply without infinite counts decodes.

* Each dimension has the ids of its options as keys, each once, in the order of first appearance.
  The count of an id is the number under the alias of the last option with it. The total is the
  number under its own alias.
* Another reply that differs under one alias decodes to a table that differs at that alias alone, so
  in the count of one id at most.
* Another reply with the same entries under the aliases decodes to the same table, and so does the
  reply with its entries in another order.
* An envelope around the reply decodes to the same table, whatever else it holds but a total. -/
theorem decode_isBare (options : FacetOptions) {reply : List (Value × Value)}
    (hbare : IsBare reply)
    (hfinite : ∀ name ∈ options.aliases, isFiniteUnder reply name = true) :
    ∃ table, options.decode (.map reply) = .ok table ∧
      (∀ d, (table.counts d).map (·.1) = ((options d).map Choice.id).eraseDups) ∧
      (∀ d id position, IsLastAt (options d) id position →
        table.count? d id = some (numberUnder reply (d.aliasAt position))) ∧
      table.total = numberUnder reply totalAlias ∧
      (∀ name other, IsBare other →
        (∀ n ∈ options.aliases, isFiniteUnder other n = true) →
        (∀ n ∈ options.aliases, n ≠ name → Value.get? other n = Value.get? reply n) →
        ∃ changed, options.decode (.map other) = .ok changed ∧
          DifferAt options name table changed ∧
          ∀ d e id id', table.count? d id ≠ changed.count? d id →
            table.count? e id' ≠ changed.count? e id' → d = e ∧ id = id') ∧
      (∀ other, IsBare other →
        (∀ n ∈ options.aliases, Value.get? other n = Value.get? reply n) →
        options.decode (.map other) = .ok table) ∧
      (∀ other : List (Value × Value), other.Perm reply →
        (reply.Pairwise fun entry later => entry.1.sameKey later.1 = false) →
        options.decode (.map other) = .ok table) ∧
      ∀ envelope, Value.get? envelope totalAlias = none →
        Value.get? envelope "data" = some (.map reply) →
        options.decode (.map envelope) = .ok table := by
  have hreply := payload_of_isBare hbare
  refine ⟨numberTable options (.map reply), decode_of_payload options hreply hfinite,
    fun d => ?_, fun d id position hlast => ?_, ?_, fun name other hother hfinite' h => ?_,
    fun other hother h => ?_, fun other hperm hkeys => ?_, fun envelope htotal hdata => ?_⟩
  · rw [counts_numberTable, keys_numbers]
  · rw [CountTable.count?, counts_numberTable, hreply, lookup_numbers options d hlast]
  · rw [numberTable, hreply]
  · have hchanged := payload_of_isBare hother
    -- The reply has changed under one alias, so the general comparison of tables applies.
    have hdiffer : DifferAt options name (numberTable options (.map reply))
        (numberTable options (.map other)) := by
      refine differAt_numberTable options ?_
      rw [hreply, hchanged]
      exact h
    exact ⟨_, decode_of_payload options hchanged hfinite', hdiffer,
      fun d e id id' hd he => hdiffer.unique hd he⟩
  · exact decode_congr options hreply (payload_of_isBare hother) hfinite h
  -- A reordered reply has the same entry under every name, so it is bare as well.
  · have hget := Value.get?_perm hperm hkeys
    have hother : IsBare other := by
      rw [IsBare, hget, hget]
      exact hbare
    exact decode_congr options hreply (payload_of_isBare hother) hfinite fun name _ => hget name
  · exact decode_congr options hreply (payload_of_data htotal hdata) hfinite fun _ _ => rfl

/-- The main fact at a dimension in which two options share an id, and at a reply with a mapping
under `data`, which its total keeps from being taken for an envelope. The later of the two options
counts. A count is missing for the option between them, and so it is zero. The other order of the
entries makes no difference, nor does an envelope with a count under an alias. -/
theorem decode_isBare_shared_id :
    let options : FacetOptions := fun
      | .types => [.plain "1" (some "A"), .plain "2" (some "B"), .plain "1" (some "C")]
      | _ => []
    let counted (v : Value) : Value := .map [(.text "_count", v)]
    let reply := [(Value.text "type_0", counted (.int 5)), (.text "type_2", counted (.text " 7 ")),
      (.text "data", .map []), (.text "total", counted (.bool true))]
    IsBare reply ∧ (∀ name ∈ options.aliases, isFiniteUnder reply name = true) ∧
      ∃ table, options.decode (.map reply) = .ok table ∧
        (table.counts .types).map (·.1) = ["1", "2"] ∧ table.count? .types "1" = some 7 ∧
        table.count? .types "2" = some 0 ∧ table.total = 0 ∧
        options.decode (.map reply.reverse) = .ok table ∧
        options.decode (.map [(.text "type_2", counted (.int 9)), (.text "data", .map reply)])
          = .ok table := by
  intro options counted reply
  have hbare : IsBare reply := .inl rfl
  have hfinite : ∀ name ∈ options.aliases, isFiniteUnder reply name = true := by decide
  obtain ⟨table, hdecode, hkeys, hcounts, htotal, -, -, hperm, henvelope⟩ :=
    decode_isBare options hbare hfinite
  -- The third option is the last one under its id: behind it there is none.
  have hlast : IsLastAt (options .types) "1" 2 := by
    refine ⟨rfl, fun next hnext => ?_⟩
    obtain ⟨beyond, rfl⟩ := Nat.exists_eq_add_of_lt hnext
    rw [List.getElem?_eq_none (show 3 ≤ _ by omega)]
    exact nofun
  -- The second option is the last one under its own id, as the one behind it has another.
  have hbetween : IsLastAt (options .types) "2" 1 := by
    refine ⟨rfl, fun next hnext => ?_⟩
    match next, hnext with
    | 2, _ => decide
    | beyond + 3, _ => exact nofun
  exact ⟨hbare, hfinite, table, hdecode, (hkeys .types).trans (by decide),
    (hcounts .types "1" 2 hlast).trans (by decide),
    (hcounts .types "2" 1 hbetween).trans (by decide), htotal.trans (by decide),
    hperm _ reply.reverse_perm (by decide), henvelope _ rfl rfl⟩

end FacetOptions

end FacetSearch
