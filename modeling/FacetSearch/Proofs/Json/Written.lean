import FacetSearch.Json.Body
import FacetSearch.Proofs.Entries
import FacetSearch.Proofs.Json.Numbers
import FacetSearch.Proofs.Json.Strings
import FacetSearch.Proofs.Text.Joined

/-!
# `FacetSearch.Proofs.Json.Written`: the JSON text of a value

A value of JSON is null, a flag, a whole number, a finite double, a text, a list, or an object whose
names are distinct texts (`Value.IsJson`). `Json.write` is its text without blanks, with the entries
of objects in their order, for any way to escape characters. The text in the body of a request is
this text with JSON escaping, `body_of_isJson`.

The first character of the text tells what kind of value it is, and it never is a blank, a comma or
a closing bracket (`exists_cons_write`).
-/

set_option autoImplicit false

namespace FacetSearch

/-- A value of JSON whose numbers are finite and whose texts, the names in objects included, are of
a class. Names may repeat in an object, as they may in a text of JSON. -/
inductive Value.IsTree (P : Text → Prop) : Value → Prop
  | null : IsTree P .null
  | bool (flag : Bool) : IsTree P (.bool flag)
  | int (number : Int) : IsTree P (.int number)
  | float {number : Binary64} (h : number.isFinite = true) : IsTree P (.float number)
  | text {content : Text} (h : P content) : IsTree P (.text content)
  | list {items : List Value} (h : ∀ v ∈ items, IsTree P v) : IsTree P (.list items)
  | object {fields : List (Text × Value)} (hnames : ∀ field ∈ fields, P field.1)
      (hvalues : ∀ field ∈ fields, IsTree P field.2) : IsTree P (.ofFields fields)

/-- A value of JSON whose texts are of a class: a tree in which no object has a name twice. The
class says which surrogates may stand in the texts, if any. -/
inductive Value.IsJson (P : Text → Prop) : Value → Prop
  | null : IsJson P .null
  | bool (flag : Bool) : IsJson P (.bool flag)
  | int (number : Int) : IsJson P (.int number)
  | float {number : Binary64} (h : number.isFinite = true) : IsJson P (.float number)
  | text {content : Text} (h : P content) : IsJson P (.text content)
  | list {items : List Value} (h : ∀ v ∈ items, IsJson P v) : IsJson P (.list items)
  | object {fields : List (Text × Value)} (hdistinct : (fields.map (·.1)).Nodup)
      (hnames : ∀ field ∈ fields, P field.1) (hvalues : ∀ field ∈ fields, IsJson P field.2) :
      IsJson P (.ofFields fields)

namespace Value

variable {P Q : Text → Prop} {v : Value}

/-- A value of JSON is a tree: distinct names are forgotten. What is said of texts of trees needs no
more. -/
theorem IsJson.isTree (h : v.IsJson P) : v.IsTree P := by
  induction h with
  | null => exact .null
  | bool flag => exact .bool flag
  | int n => exact .int n
  | float hfinite => exact .float hfinite
  | text hcontent => exact .text hcontent
  | list _ ih => exact .list ih
  | object _ hnames _ ih => exact .object hnames ih

/-- Texts of one class are of every wider one. -/
theorem IsJson.imp (h : v.IsJson P) (hPQ : ∀ t, P t → Q t) : v.IsJson Q := by
  induction h with
  | null => exact .null
  | bool flag => exact .bool flag
  | int n => exact .int n
  | float hfinite => exact .float hfinite
  | text hcontent => exact .text (hPQ _ hcontent)
  | list _ ih => exact .list ih
  | object hdistinct hnames _ ih =>
      exact .object hdistinct (fun field hfield => hPQ _ (hnames field hfield)) ih

/-- Variables that are missing, or are a JSON object whose texts are of a class. This is what a
request takes and a key is made from. -/
def AreJson (P : Text → Prop) (bindings : Option (List (Text × Value))) : Prop :=
  ∀ fields, bindings = some fields → (ofFields fields).IsJson P

/-- Texts of one class are of every wider one. -/
theorem AreJson.imp {bindings : Option (List (Text × Value))} (h : AreJson P bindings)
    (hPQ : ∀ t, P t → Q t) : AreJson Q bindings :=
  fun fields hfields => (h fields hfields).imp hPQ

end Value

namespace Json

mutual

/-- The JSON text of a value of JSON. Other values have none, and the facts below are about values
of JSON only. -/
def write (escape : CodePoint → List CodePoint) : Value → List CodePoint
  | .null => "null".toList.map .char
  | .bool flag => (if flag then "true" else "false").toList.map .char
  | .int number => (integerText number).map .char
  | .float number => number.text.map .char
  | .text content => quotedBy escape content
  | .list items => arrayText (writeItems escape items)
  | .map entries => objectText (writeEntries escape entries)
  | _ => []

/-- The JSON texts of items. -/
def writeItems (escape : CodePoint → List CodePoint) : List Value → List (List CodePoint)
  | [] => []
  | x :: xs => write escape x :: writeItems escape xs

/-- The JSON texts of entries. -/
def writeEntries (escape : CodePoint → List CodePoint) :
    List (Value × Value) → List (List CodePoint)
  | [] => []
  | (key, value) :: rest =>
      (write escape key ++ .char ':' :: write escape value) :: writeEntries escape rest

end

/-- The JSON text of a value under a name. -/
def writeField (escape : CodePoint → List CodePoint) (field : Text × Value) : List CodePoint :=
  quotedBy escape field.1 ++ .char ':' :: write escape field.2

variable {escape : CodePoint → List CodePoint} {P : Text → Prop}

/-- The texts of items, one by one. -/
theorem writeItems_eq (items : List Value) :
    writeItems escape items = items.map (write escape) := by
  induction items with
  | nil => rfl
  | cons x xs ih => rw [writeItems, ih, List.map_cons]

/-- The texts of fields, one by one. -/
theorem writeEntries_eq (fields : List (Text × Value)) :
    writeEntries escape (fields.map Value.entry)
      = fields.map (writeField escape) := by
  induction fields with
  | nil => rfl
  | cons field rest ih =>
      rw [List.map_cons, List.map_cons, writeEntries, ih]
      rfl

/-- The text of a list, from those of its items. -/
theorem write_list (items : List Value) :
    write escape (.list items) = arrayText (items.map (write escape)) := by
  rw [write, writeItems_eq]

/-- The text of an object, from those of its fields. -/
theorem write_ofFields (fields : List (Text × Value)) :
    write escape (.ofFields fields) = objectText (fields.map (writeField escape)) := by
  rw [Value.ofFields_eq, write, writeEntries_eq]

/-! ### Bodies -/

/-- Items that have texts one by one have them together, since only an item without a text fails. -/
theorem bodyItems_eq {items : List Value} {text : Value → List CodePoint}
    (h : ∀ v ∈ items, body v = .ok (text v)) : bodyItems items = .ok (items.map text) := by
  induction items with
  | nil => rfl
  | cons x xs ih =>
      rw [bodyItems, h x List.mem_cons_self, ih fun v hv => h v (List.mem_cons_of_mem _ hv)]
      rfl

/-- Fields whose values have texts one by one have them together. The walk fails at the first value
that has none, and here every value has one. -/
theorem bodyEntries_eq {fields : List (Text × Value)} {text : Text × Value → List CodePoint}
    (h : ∀ field ∈ fields, body field.2 = .ok (text field)) :
    bodyEntries (fields.map Value.entry)
      = .ok (fields.map fun field => jsonQuoted field.1.toList ++ .char ':' :: text field) := by
  induction fields with
  | nil => rfl
  | cons field rest ih =>
      rw [List.map_cons, Value.entry, bodyEntries, h field List.mem_cons_self,
        ih fun f hf => h f (List.mem_cons_of_mem _ hf)]
      rfl

/-- A value of JSON has a text in a body, with JSON escaping. By induction on the value, one case
for each kind. -/
theorem body_of_isJson {v : Value} (h : v.IsJson P) :
    body v = .ok (write jsonPoint v) := by
  induction h with
  | null => rfl
  | bool => rfl
  | int => rfl
  | float hfinite => rw [body, if_pos hfinite, write]
  | text => rfl
  | list _ ih =>
      rw [body, bodyItems_eq ih, write_list]
      rfl
  | object _ _ _ ih =>
      rw [write_ofFields, Value.ofFields_eq, body, bodyEntries_eq ih]
      rfl

/-! ### The first character -/

/-- What the text of a value starts with. A reader that finds none of these has found no value, so
pieces between values are told from values by them. -/
def startsValue (point : CodePoint) : Bool :=
  point.satisfies fun c => c.isDigit || ['n', 't', 'f', '-', '"', '[', '\x7b'].contains c

/-- What does not start a value is none of the characters that do. -/
theorem ne_of_startsValue {c d : CodePoint} (hc : startsValue c = true)
    (hd : startsValue d = false) :
    c ≠ d := by
  rintro rfl
  rw [hc] at hd
  cases hd

/-- A number with its sign starts with what starts a value. -/
theorem exists_cons_of_signedText (negative : Bool) {p : DecimalParts} (h : p.IsProper) :
    ∃ c tail, (p.signedText negative).map CodePoint.char = c :: tail ∧ startsValue c = true := by
  obtain ⟨c, tail, htext, hc⟩ := DecimalParts.exists_cons_signedText negative h
  refine ⟨.char c, tail.map .char, by rw [htext]; rfl, ?_⟩
  rcases hc with rfl | hdigit
  · rfl
  · rw [startsValue, CodePoint.satisfies, hdigit, Bool.true_or]

/-- The text of a value starts with what starts a value. So it is not empty, and no blank, comma or
closing bracket is in front of it. -/
theorem exists_cons_write (escape : CodePoint → List CodePoint) {v : Value} (h : v.IsTree P) :
    ∃ c tail, write escape v = c :: tail ∧ startsValue c = true := by
  cases h with
  | null => exact ⟨_, _, rfl, rfl⟩
  | bool flag => cases flag <;> exact ⟨_, _, rfl, rfl⟩
  -- A number starts with its minus or with a digit.
  | int n =>
      rw [write, integerText_eq]
      exact exists_cons_of_signedText _ (DecimalParts.isProper_ofNat _)
  | @float number hfinite =>
      cases number with
      | finite negative significand exponent hcanonical =>
          rw [write, Binary64.text_finite]
          exact exists_cons_of_signedText _ (Binary64.isProper_magnitudeParts hcanonical)
      | infinite => cases hfinite
      | nan => cases hfinite
  | text => exact ⟨_, _, rfl, rfl⟩
  | list => exact ⟨_, _, rfl, rfl⟩
  | object => exact ⟨_, _, rfl, rfl⟩

end Json

end FacetSearch
