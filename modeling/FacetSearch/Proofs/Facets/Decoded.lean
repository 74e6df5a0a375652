import FacetSearch.Proofs.Facets.Aliases
import FacetSearch.Proofs.Facets.Counts

/-!
# `FacetSearch.Proofs.Facets.Decoded`: what is decoded from any reply

A reply comes from outside and can hold anything. `Value.wholeCount?` says which whole number a
count stands for, if any, and `numberUnder` is the number under an alias, zero where the entry is
missing, is no mapping, or has a count that stands for none.

The main fact `decode_any` says when a reply decodes and to what. It decodes exactly when no count
under an alias of the query is infinite. Then the table has the number under each alias: each
depends on the entry of its own alias alone, so an odd entry loses no other. Of options with one id
the last one's number stays.

Each part of the decoder is described by one equivalence, `countAt_eq_ok_iff`,
`dimensionCounts_eq_ok_iff` and `decode_eq_ok_iff`, which says when it succeeds and with what.
-/

set_option autoImplicit false

namespace FacetSearch

namespace Value

/-- An infinite double or decimal. -/
def isInfinite : Value → Bool
  | .float (.infinite _) => true
  | .decimal (.infinite _) => true
  | _ => false

/-- The whole number that a count stands for, if it stands for one: a number with its fraction cut
off, or what a text or a byte string spells. A flag stands for none. -/
def wholeCount? : Value → Option Int
  | .int number => some number
  | .float number => number.truncate?
  | .decimal number => number.truncate?
  | .text content => content.chars?.bind lenientInteger?
  | .bytes content => lenientInteger? (asciiText content)
  | _ => none

/-- A count is read unless it is infinite; what stands for no whole number counts zero. The infinite
ones are the only values that the reader of counts does not turn into a number. -/
theorem count_eq_ok_iff (v : Value) (n : Int) :
    v.count = .ok n ↔ v.isInfinite = false ∧ n = v.wholeCount?.getD 0 := by
  -- Each kind of value is read or refused at once, so two facts cover all of them.
  have hread : ∀ m : Int, (Except.ok m : Except Failure Int) = .ok n ↔ false = false ∧ n = m := by
    intro m
    rw [Except.ok.injEq]
    exact ⟨fun h => ⟨rfl, h.symm⟩, fun h => h.2.symm⟩
  have hrefused : ∀ (cause : Failure) (m : Int),
      (Except.error cause : Except Failure Int) = .ok n ↔ true = false ∧ n = m :=
    fun _ _ => ⟨fun h => (by cases h), fun h => absurd h.1.symm Bool.false_ne_true⟩
  cases v with
  | float number =>
      cases number with
      | infinite => exact hrefused _ _
      | finite => exact hread _
      | nan => exact hread _
  | decimal number =>
      cases number with
      | infinite => exact hrefused _ _
      | finite => exact hread _
      | nan => exact hread _
  | _ => exact hread _

end Value

/-- A computation in two parts succeeds when both parts do. Every equivalence about the decoder
below starts by taking its steps apart with this. -/
theorem bind_eq_ok_iff {α β : Type} {first : Except Failure α} {next : α → Except Failure β}
    {result : β} :
    (first >>= next) = .ok result ↔ ∃ x, first = .ok x ∧ next x = .ok result := by
  cases first with
  | error cause => exact ⟨fun h => (by cases h), fun ⟨_, h, _⟩ => (by cases h)⟩
  | ok x => exact ⟨fun h => ⟨x, rfl, h⟩, fun ⟨_, hx, h⟩ => (by cases hx; exact h)⟩

namespace FacetOptions

/-- A walk succeeds when each of its steps does, and then gives the results of the steps in
order. -/
theorem mapM_eq_ok_iff {α β : Type} {step : α → Except Failure β} {succeeds : α → Prop}
    {result : α → β} (h : ∀ x y, step x = .ok y ↔ succeeds x ∧ y = result x) (items : List α)
    (results : List β) :
    items.mapM step = .ok results ↔ (∀ x ∈ items, succeeds x) ∧ results = items.map result := by
  constructor
  · intro hwalk
    -- On the items: a walk over a nonempty list is its first step and the walk over the rest.
    induction items generalizing results with
    | nil => exact ⟨List.forall_mem_nil _, (Except.ok.inj hwalk).symm⟩
    | cons x rest ih =>
        rw [List.mapM_cons] at hwalk
        obtain ⟨y, hy, hrest⟩ := bind_eq_ok_iff.mp hwalk
        obtain ⟨ys, hys, hresults⟩ := bind_eq_ok_iff.mp hrest
        obtain ⟨hx, rfl⟩ := (h x y).mp hy
        obtain ⟨hall, rfl⟩ := ih ys hys
        exact ⟨List.forall_mem_cons.mpr ⟨hx, hall⟩, (Except.ok.inj hresults).symm⟩
  · rintro ⟨hall, rfl⟩
    exact mapM_eq_ok fun x hx => (h x _).mpr ⟨hall x hx, rfl⟩

/-- What stands as count under an alias of a reply, if anything does. -/
def countUnder? (entries : List (Value × Value)) (name : Text) : Option Value :=
  match Value.get? entries name with
  | some (.map entry) => Value.get? entry "_count"
  | _ => none

/-- The number under an alias: zero when the entry is missing or no mapping, or when its count is
missing or stands for no whole number. -/
def numberUnder (entries : List (Value × Value)) (name : Text) : Int :=
  ((countUnder? entries name).bind Value.wholeCount?).getD 0

/-- Whether no infinite count stands under an alias. -/
def isFiniteUnder (entries : List (Value × Value)) (name : Text) : Bool :=
  (countUnder? entries name).all fun v => !v.isInfinite

/-- The numbers of a dimension by option id. -/
def numbers (options : FacetOptions) (entries : List (Value × Value)) (d : Dimension) :
    List (Text × Int) :=
  Entries.putAll []
    ((options d).mapIdx fun position row => (row.id, numberUnder entries (d.aliasAt position)))

/-- The table of the numbers under the aliases of a reply. -/
def numberTable (options : FacetOptions) (raw : Value) : CountTable where
  types := numbers options (payload raw) .types
  sectors := numbers options (payload raw) .sectors
  statuses := numbers options (payload raw) .statuses
  tags := numbers options (payload raw) .tags
  total := numberUnder (payload raw) totalAlias

/-- The aliases that a query over options has. -/
def aliases (options : FacetOptions) : List Text :=
  Dimension.all.flatMap (FacetQuery.dimensionAliases options) ++ [totalAlias]

variable (options : FacetOptions) (entries : List (Value × Value)) (d : Dimension)

/-- The count of an alias is what stands under it; where nothing stands, it counts like null. So a
missing entry needs no case of its own below. -/
theorem countAt_eq (name : Text) :
    countAt entries name = ((countUnder? entries name).getD .null).count := by
  rw [countAt, countUnder?]
  cases Value.get? entries name with
  | none => rfl
  | some v => cases v <;> rfl

/-- The count of an alias is read unless it is infinite. -/
theorem countAt_eq_ok_iff (name : Text) (n : Int) :
    countAt entries name = .ok n
      ↔ isFiniteUnder entries name = true ∧ n = numberUnder entries name := by
  rw [countAt_eq, Value.count_eq_ok_iff, isFiniteUnder, numberUnder]
  cases countUnder? entries name with
  | none => exact ⟨fun h => ⟨rfl, h.2⟩, fun h => ⟨rfl, h.2⟩⟩
  | some count =>
      rw [Option.all_some, Bool.not_eq_true']
      rfl

/-- The counts of a dimension are read unless one of them is infinite. One infinite count is enough
to lose the whole dimension, and with it the table. -/
theorem dimensionCounts_eq_ok_iff (counts : List (Text × Int)) :
    dimensionCounts options entries d = .ok counts
      ↔ (∀ name ∈ FacetQuery.dimensionAliases options d, isFiniteUnder entries name = true) ∧
        counts = numbers options entries d := by
  let number (named : Text × Text) : Text × Int := (named.2, numberUnder entries named.1)
  -- One step reads one count and pairs it with the id; it fails only where reading fails.
  have hstep : ∀ (named : Text × Text) (counted : Text × Int),
      (do return (named.2, ← countAt entries named.1) : Except Failure (Text × Int))
          = .ok counted ↔ isFiniteUnder entries named.1 = true ∧ counted = number named := by
    intro named counted
    rw [bind_eq_ok_iff]
    constructor
    · rintro ⟨n, hn, hcounted⟩
      obtain ⟨hfinite, rfl⟩ := (countAt_eq_ok_iff entries named.1 n).mp hn
      exact ⟨hfinite, (Except.ok.inj hcounted).symm⟩
    · rintro ⟨hfinite, rfl⟩
      exact ⟨_, (countAt_eq_ok_iff entries named.1 _).mpr ⟨hfinite, rfl⟩, rfl⟩
  -- The decoder walks over pairs of an alias and an id; aliases and numbers are made from these.
  have haliases : FacetQuery.dimensionAliases options d
      = ((options d).mapIdx fun position row => (d.aliasAt position, row.id)).map (·.1) := by
    rw [FacetQuery.dimensionAliases]
    refine List.ext_getElem (by simp) fun position h₁ h₂ => ?_
    simp
  have hnumbers : numbers options entries d = Entries.putAll []
      (((options d).mapIdx fun position row => (d.aliasAt position, row.id)).map number) := by
    refine congrArg (Entries.putAll []) (List.ext_getElem (by simp) fun position h₁ h₂ => ?_)
    simp [number]
  rw [dimensionCounts, bind_eq_ok_iff, haliases, List.forall_mem_map, hnumbers]
  constructor
  · rintro ⟨counted, hcounted, hcounts⟩
    obtain ⟨hall, rfl⟩ := (mapM_eq_ok_iff hstep _ counted).mp hcounted
    exact ⟨hall, (Except.ok.inj hcounts).symm⟩
  · rintro ⟨hall, rfl⟩
    exact ⟨_, (mapM_eq_ok_iff hstep _ _).mpr ⟨hall, rfl⟩, rfl⟩

/-- A reply decodes unless an infinite count stands under an alias of the query, and then to the
table of the numbers. An infinite count elsewhere in the reply is never looked at. -/
theorem decode_eq_ok_iff (raw : Value) (table : CountTable) :
    options.decode raw = .ok table
      ↔ (∀ name ∈ options.aliases, isFiniteUnder (payload raw) name = true) ∧
        table = numberTable options raw := by
  -- The aliases of a query, dimension by dimension, as the decoder goes through them.
  have haliases : (∀ name ∈ options.aliases, isFiniteUnder (payload raw) name = true) ↔
      (∀ d, ∀ name ∈ FacetQuery.dimensionAliases options d,
        isFiniteUnder (payload raw) name = true) ∧
      isFiniteUnder (payload raw) totalAlias = true := by
    rw [aliases, List.forall_mem_append, List.forall_mem_flatMap, List.forall_mem_singleton]
    refine and_congr_left fun _ => ⟨fun h d => h d d.mem_all, fun h d _ => h d⟩
  rw [haliases, decode]
  simp only [bind_eq_ok_iff, dimensionCounts_eq_ok_iff, countAt_eq_ok_iff]
  constructor
  · rintro ⟨_, ⟨htypes, rfl⟩, _, ⟨hsectors, rfl⟩, _, ⟨hstatuses, rfl⟩, _, ⟨htags, rfl⟩, _,
      ⟨htotal, rfl⟩, htable⟩
    refine ⟨⟨fun d => ?_, htotal⟩, (Except.ok.inj htable).symm⟩
    cases d with
    | types => exact htypes
    | sectors => exact hsectors
    | statuses => exact hstatuses
    | tags => exact htags
  · rintro ⟨⟨hall, htotal⟩, rfl⟩
    exact ⟨_, ⟨hall .types, rfl⟩, _, ⟨hall .sectors, rfl⟩, _, ⟨hall .statuses, rfl⟩, _,
      ⟨hall .tags, rfl⟩, _, ⟨htotal, rfl⟩, rfl⟩

/-- The numbers of a dimension in the table. -/
theorem counts_numberTable (raw : Value) :
    (numberTable options raw).counts d = numbers options (payload raw) d := by
  cases d <;> rfl

/-- The numbers of a dimension have the ids of its options as keys, each once, in the order in which
the ids first occur. -/
theorem keys_numbers :
    (numbers options entries d).map (·.1) = ((options d).map Choice.id).eraseDups := by
  rw [numbers, Entries.keys_putAll]
  refine congrArg List.eraseDups (List.ext_getElem (by simp) fun position h₁ h₂ => ?_)
  simp

/-- The last option with an id has the number under its own alias: the table is filled in order, so
a later option replaces what an earlier one with its id had put. -/
theorem mem_numbers {before after : List Choice} {row : Choice}
    (hrows : options d = before ++ row :: after) (hlast : ∀ later ∈ after, later.id ≠ row.id) :
    (row.id, numberUnder entries (d.aliasAt before.length)) ∈ numbers options entries d := by
  rw [numbers, hrows, List.mapIdx_append, List.mapIdx_cons, Nat.zero_add]
  -- A later entry under the id would come from a later option with it.
  refine Entries.mem_putAll_of_last fun later hlater => ?_
  obtain ⟨position, hlt, rfl⟩ := List.mem_mapIdx.mp hlater
  exact hlast _ (List.getElem_mem hlt)

/-- **When a reply decodes, and to what.** Whatever a reply is, it decodes exactly when no infinite
count stands under an alias of the query. The table then has one entry for each id of an option, and
for the last option with an id the number under the alias of that option. The total is the number
under its own alias. -/
theorem decode_any (options : FacetOptions) (raw : Value) :
    ((∃ table, options.decode raw = .ok table) ↔
      ∀ name ∈ options.aliases, isFiniteUnder (payload raw) name = true) ∧
    ∀ table : CountTable, options.decode raw = .ok table →
      (∀ d, (table.counts d).map (·.1) = ((options d).map Choice.id).eraseDups) ∧
      (∀ d before row after, options d = before ++ row :: after →
        (∀ later ∈ after, later.id ≠ row.id) →
        (row.id, numberUnder (payload raw) (d.aliasAt before.length)) ∈ table.counts d) ∧
      table.total = numberUnder (payload raw) totalAlias := by
  refine ⟨⟨?_, ?_⟩, ?_⟩
  · rintro ⟨table, htable⟩
    exact ((decode_eq_ok_iff options raw table).mp htable).1
  · intro hfinite
    exact ⟨_, (decode_eq_ok_iff options raw _).mpr ⟨hfinite, rfl⟩⟩
  -- There is one table that the reply can decode to, so what holds of it holds of every table.
  · intro table htable
    obtain ⟨-, rfl⟩ := (decode_eq_ok_iff options raw table).mp htable
    refine ⟨fun d => ?_, fun d before row after hrows hlast => ?_, rfl⟩
    · rw [counts_numberTable, keys_numbers]
    · rw [counts_numberTable]
      exact mem_numbers options _ d hrows hlast

/-- The options of one type with the id `1`. -/
def oneType : FacetOptions
  | .types => [.plain "1" (some "A")]
  | _ => []

/-- The main fact at a reply with a count of two and a half for the type, a text for the total and
an infinite count under an alias that the query does not have. -/
theorem decode_any_fraction :
    ∃ table, oneType.decode (.map
        [(.text "type_0", .map [(.text "_count", .decimal (.finite false 25 (-1)))]),
          (.text "total", .map [(.text "_count", .text "many")]),
          (.text "type_1", .map [(.text "_count", .float (.infinite false))])]) = .ok table ∧
      (("1" : Text), 2) ∈ table.types ∧ table.total = 0 := by
  let raw : Value := .map
    [(.text "type_0", .map [(.text "_count", .decimal (.finite false 25 (-1)))]),
      (.text "total", .map [(.text "_count", .text "many")]),
      (.text "type_1", .map [(.text "_count", .float (.infinite false))])]
  obtain ⟨hdecodes, htable⟩ := decode_any oneType raw
  -- The infinite count stands under no alias of this query, so it is never looked at.
  obtain ⟨table, hok⟩ := hdecodes.mpr (by decide)
  obtain ⟨-, hnumbers, htotal⟩ := htable table hok
  exact ⟨table, hok, hnumbers .types [] _ [] rfl (List.forall_mem_nil _), htotal⟩

/-- One infinite count loses the counts of all other aliases. -/
theorem decode_infinite_count :
    oneType.decode (.map
      [(.text "type_0", .map [(.text "_count", .float (.infinite false))]),
        (.text "total", .map [(.text "_count", .int 7)])]) = .error .infiniteCount := rfl

end FacetOptions

end FacetSearch
