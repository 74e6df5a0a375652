import FacetSearch.Catalog.Check

/-!
# `FacetSearch.Proofs.Catalog.Raw`: values without records

A raw value holds no record of the library, as what JSON spells holds none. What stands in a raw
list or under a key of a raw mapping is raw again.

`get?_putBy` says what a put under a text key does to a mapping: the key has the value then, and
every other key has what it had.
-/

set_option autoImplicit false

namespace FacetSearch

namespace Value

/-- A value that holds no record, at any depth. Texts, numbers and containers of all kinds may
occur, also such as JSON does not have. -/
inductive IsRaw : Value → Prop
  | null : IsRaw .null
  | bool (flag : Bool) : IsRaw (.bool flag)
  | int (number : Int) : IsRaw (.int number)
  | float (number : Binary64) : IsRaw (.float number)
  | text (content : Text) : IsRaw (.text content)
  | dimension (d : Dimension) : IsRaw (.dimension d)
  | bytes (content : List UInt8) : IsRaw (.bytes content)
  | decimal (number : Decimal) : IsRaw (.decimal number)
  | foreign (content : Text) : IsRaw (.foreign content)
  | list {items : List Value} (h : ∀ v ∈ items, IsRaw v) : IsRaw (.list items)
  | tuple {items : List Value} (h : ∀ v ∈ items, IsRaw v) : IsRaw (.tuple items)
  | set {frozen : Bool} {items : List Value} (h : ∀ v ∈ items, IsRaw v) :
      IsRaw (.set frozen items)
  | map {entries : List (Value × Value)} (hkeys : ∀ entry ∈ entries, IsRaw entry.1)
      (hvalues : ∀ entry ∈ entries, IsRaw entry.2) : IsRaw (.map entries)

attribute [simp] IsRaw.null IsRaw.bool IsRaw.int IsRaw.text

@[simp]
theorem isRaw_list_iff {items : List Value} : (list items).IsRaw ↔ ∀ v ∈ items, v.IsRaw :=
  ⟨fun h => (by cases h with | list hitems => exact hitems), .list⟩

@[simp]
theorem isRaw_tuple_iff {items : List Value} : (tuple items).IsRaw ↔ ∀ v ∈ items, v.IsRaw :=
  ⟨fun h => (by cases h with | tuple hitems => exact hitems), .tuple⟩

@[simp]
theorem isRaw_set_iff {frozen : Bool} {items : List Value} :
    (set frozen items).IsRaw ↔ ∀ v ∈ items, v.IsRaw :=
  ⟨fun h => (by cases h with | set hitems => exact hitems), .set⟩

@[simp]
theorem isRaw_map_iff {entries : List (Value × Value)} :
    (map entries).IsRaw ↔ (∀ entry ∈ entries, entry.1.IsRaw) ∧ ∀ entry ∈ entries, entry.2.IsRaw :=
  ⟨fun h => (by cases h with | map hkeys hvalues => exact ⟨hkeys, hvalues⟩), fun h => .map h.1 h.2⟩

/-- The items of a raw list or tuple are raw. Where a table is no list or tuple it has no items. -/
theorem IsRaw.of_mem_sequence {v x : Value} (h : v.IsRaw) (hx : x ∈ v.sequence?.getD []) :
    x.IsRaw := by
  cases h with
  | list hitems => exact hitems x hx
  | tuple hitems => exact hitems x hx
  | _ => cases hx

/-- What stands under a key of a raw mapping is raw. -/
theorem IsRaw.of_get? {entries : List (Value × Value)} {name : Text} {v : Value}
    (h : (Value.map entries).IsRaw) (hv : get? entries name = some v) : v.IsRaw := by
  obtain ⟨entry, hfound, rfl⟩ := Option.map_eq_some_iff.mp hv
  cases h with
  | map _ hvalues => exact hvalues entry (List.mem_of_find?_eq_some hfound)

/-- A key is one with a text when it is this text. Besides texts these are the members of the
enumeration, and no number is ever one with a text. -/
theorem sameKey_text (key : Value) (name : Text) :
    sameKey key (.text name) = (key.text? == some name) := by
  cases key with
  | text content =>
      show (some name == some content) = (some content == some name)
      exact Bool.beq_comm
  | dimension d =>
      show (some name == some (d.text : Text)) = (some (d.text : Text) == some name)
      exact Bool.beq_comm
  -- A number has a quantity or none, and a text has none and is compared as a text.
  | decimal number =>
      simp only [sameKey, quantity?]
      cases Quantity.ofDecimal? number <;> rfl
  | float number =>
      simp only [sameKey, quantity?]
      cases Quantity.ofBinary64? number <;> rfl
  | _ => rfl

/-- Two keys of one text are one key. -/
theorem sameKey_of_text? {key other : Value} {name : Text} (hkey : key.text? = some name)
    (hother : other.text? = some name) : key.sameKey other = true := by
  cases key with
  | text content =>
      show (other.text? == some content) = true
      rw [hother, ← hkey]
      exact beq_self_eq_true _
  | dimension d =>
      show (other.text? == some (d.text : Text)) = true
      rw [hother, ← hkey]
      exact beq_self_eq_true _
  | _ => cases hkey

/-- The value under a key comes from the first entry with the key. No two entries of a mapping have
one key, but nothing here depends on it. -/
theorem get?_cons (entry : Value × Value) (rest : List (Value × Value)) (name : Text) :
    get? (entry :: rest) name
      = if entry.1.text? = some name then some entry.2 else get? rest name := by
  rw [get?, List.find?_cons]
  by_cases hkey : entry.1.text? = some name
  · rw [if_pos hkey, hkey, beq_self_eq_true]
    rfl
  · rw [if_neg hkey, beq_eq_false_iff_ne.mpr hkey]
    rfl

/-- After a put under a text key the key has the value, and the others have what they had. The put
keeps the first spelling of a key that is there already, which has the same text. -/
theorem get?_putBy (entries : List (Value × Value)) (key name : Text) (value : Value) :
    get? (Entries.putBy sameKey entries (.text key) value) name
      = if name = key then some value else get? entries name := by
  induction entries with
  | nil =>
      rw [Entries.putBy, get?_cons]
      by_cases hname : name = key
      · rw [if_pos hname, if_pos (by rw [hname]; rfl)]
      · have hkey : ¬ (Value.text key).text? = some name := by
          intro heq
          cases heq
          exact hname rfl
        rw [if_neg hname, if_neg hkey]
  | cons entry rest ih =>
      obtain ⟨k, v⟩ := entry
      rw [Entries.putBy, sameKey_text, get?_cons]
      -- The put changes the first entry with the key, and goes on behind any other entry.
      by_cases hkey : k.text? = some key
      · rw [hkey, beq_self_eq_true, if_pos rfl, get?_cons, hkey]
        by_cases hname : name = key
        · rw [if_pos (by rw [hname]), if_pos hname]
        · have hne : ¬ some key = some name := by
            intro heq
            cases heq
            exact hname rfl
          rw [if_neg hne, if_neg hname, if_neg hne]
      · rw [beq_eq_false_iff_ne.mpr hkey, if_neg (by decide), get?_cons, ih]
        by_cases hname : name = key
        · rw [if_pos hname, hname, if_neg hkey, if_pos rfl]
        · rw [if_neg hname, if_neg hname]

end Value

end FacetSearch
