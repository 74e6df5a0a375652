import FacetSearch.Proofs.Grammar.Token

/-!
# `FacetSearch.Proofs.Grammar.Reader`: values and fields of a query

A value of a query is a variable, a number, a string, a flag, null, a name of an enumeration, a list
or an object. A field has a name, which may have an alias in front of it, arguments and a selection
of further fields. `readValue?` and `readField?` read a whole text as one value or one field.

Every step of a reader goes through the next token, and a fuel bounds the number of steps. The
length of the text is enough, since an item of a list or an object takes up a character at least.
Fields with directives and spreads of fragments are refused; no text written here has them.
-/

set_option autoImplicit false

namespace FacetSearch.Grammar

/-- A value of a query, as a server reads it. Numbers with a fraction or an exponent are doubles,
and all others whole numbers. -/
inductive Term where
  | reference (name : Text)
  | int (number : Int)
  | float (number : Binary64)
  | text (content : Text)
  | bool (flag : Bool)
  | null
  | member (name : Text)
  | list (items : List Term)
  | object (fields : List (Text × Term))

/-- A field of a query: its alias, its name, its arguments and the fields selected below it. -/
inductive Field where
  | mk (aliasName : Option Text) (name : Text) (arguments : List (Text × Term))
      (selections : List Field)

/-- The value that is written as a name. Flags and null are spelled like members of enumerations and
are told apart by their names. -/
def Term.ofName (name : Text) : Term :=
  if name = "true" then .bool true
  else if name = "false" then .bool false
  else if name = "null" then .null
  else .member name

/-- A name, and what follows it. Whatever means nothing before the name is passed over. -/
def name? (text : List CodePoint) : Option (Text × List CodePoint) :=
  match next? text with
  | some (.name name, rest) => some (name, rest)
  | _ => none

/-- What follows a punctuator. Whatever means nothing before the punctuator is passed over. -/
def after? (c : Char) (text : List CodePoint) : Option (List CodePoint) :=
  match next? text with
  | some (.mark d, rest) => if d = c then some rest else none
  | _ => none

mutual

/-- A value, and what follows it. The fuel bounds how deep values stand in one another and how many
there are, and the length of the text is enough. -/
def value? : Nat → List CodePoint → Option (Term × List CodePoint)
  | 0, _ => none
  | fuel + 1, text =>
      match next? text with
      | some (.int number, rest) => some (.int number, rest)
      | some (.float number, rest) => some (.float number, rest)
      | some (.text content, rest) => some (.text content, rest)
      | some (.name name, rest) => some (.ofName name, rest)
      | some (.mark '$', rest) => (name? rest).map fun (name, after) => (.reference name, after)
      | some (.mark '[', rest) => (items? fuel rest).map fun (items, after) => (.list items, after)
      | some (.mark '\x7b', rest) =>
          (entries? fuel '\x7d' rest).map fun (fields, after) => (.object fields, after)
      | _ => none

/-- The items of a list up to its closing bracket, and what follows. There is nothing between items
but what is ignored. -/
def items? : Nat → List CodePoint → Option (List Term × List CodePoint)
  | 0, _ => none
  | fuel + 1, text =>
      match after? ']' text with
      | some rest => some ([], rest)
      | none => do
          let (item, rest) ← value? fuel text
          let (items, rest) ← items? fuel rest
          return (item :: items, rest)

/-- Names with values up to a closing punctuator, and what follows. Objects and arguments are both
read so. -/
def entries? : Nat → Char → List CodePoint → Option (List (Text × Term) × List CodePoint)
  | 0, _, _ => none
  | fuel + 1, close, text =>
      match after? close text with
      | some rest => some ([], rest)
      | none => do
          let (name, rest) ← name? text
          let rest ← after? ':' rest
          let (value, rest) ← value? fuel rest
          let (entries, rest) ← entries? fuel close rest
          return ((name, value) :: entries, rest)

end

/-- The arguments of a field in parentheses, if it has any, and what follows. Without parentheses
there are none, and nothing is read. -/
def arguments? (fuel : Nat) (text : List CodePoint) :
    Option (List (Text × Term) × List CodePoint) :=
  match after? '(' text with
  | none => some ([], text)
  | some rest => do
      let (arguments, rest) ← entries? fuel ')' rest
      if arguments.isEmpty then none
      return (arguments, rest)

/-- The name of a field with its alias, and what follows. A colon behind the first name makes this
the alias. -/
def aliased? (text : List CodePoint) : Option (Option Text × Text × List CodePoint) := do
  let (first, rest) ← name? text
  match after? ':' rest with
  | none => return (none, first, rest)
  | some rest => do
      let (second, rest) ← name? rest
      return (some first, second, rest)

mutual

/-- A field, and what follows it. A brace behind it opens the fields below. -/
def field? : Nat → List CodePoint → Option (Field × List CodePoint)
  | 0, _ => none
  | fuel + 1, text => do
      let (aliasName, name, rest) ← aliased? text
      let (arguments, rest) ← arguments? fuel rest
      match after? '\x7b' rest with
      | none => return (.mk aliasName name arguments [], rest)
      | some rest => do
          let (selections, rest) ← selections? fuel rest
          if selections.isEmpty then none
          return (.mk aliasName name arguments selections, rest)

/-- The fields of a selection up to its closing brace, and what follows. -/
def selections? : Nat → List CodePoint → Option (List Field × List CodePoint)
  | 0, _ => none
  | fuel + 1, text =>
      match after? '\x7d' text with
      | some rest => some ([], rest)
      | none => do
          let (field, rest) ← field? fuel text
          let (fields, rest) ← selections? fuel rest
          return (field :: fields, rest)

end

/-- What was read of a text, if nothing but what means nothing follows it. A reader that stops early
has not read the text. -/
def whole {α : Type} (read : Option (α × List CodePoint)) : Option α :=
  match read with
  | some (x, rest) => if (skipIgnored false rest).isEmpty then some x else none
  | none => none

/-- The value that a text is. Every step of the reader takes up a character, so the length of the
text is fuel enough. -/
def readValue? (text : List CodePoint) : Option Term := whole (value? (text.length + 1) text)

/-- The field that a text is, with nothing else in the text but what is ignored. -/
def readField? (text : List CodePoint) : Option Field := whole (field? (text.length + 1) text)

/-! ### Steps of the readers -/

/-- Readers go by the next token, so what means nothing before it can be added or left out. -/
theorem after?_congr {a b : List CodePoint} (h : next? a = next? b) (c : Char) :
    after? c a = after? c b := by
  rw [after?, after?, h]

/-- Readers go by the next token, so they read alike what has one next token. -/
theorem name?_congr {a b : List CodePoint} (h : next? a = next? b) : name? a = name? b := by
  rw [name?, name?, h]

/-- Readers go by the next token. -/
theorem value?_congr {a b : List CodePoint} (h : next? a = next? b) (fuel : Nat) :
    value? fuel a = value? fuel b := by
  cases fuel with
  | zero => rfl
  | succ fuel => rw [value?, value?, h]

/-- Readers go by the next token. -/
theorem items?_congr {a b : List CodePoint} (h : next? a = next? b) (fuel : Nat) :
    items? fuel a = items? fuel b := by
  cases fuel with
  | zero => rfl
  | succ fuel => rw [items?, items?, after?_congr h, value?_congr h]

/-- Readers go by the next token. -/
theorem entries?_congr {a b : List CodePoint} (h : next? a = next? b) (fuel : Nat) (close : Char) :
    entries? fuel close a = entries? fuel close b := by
  cases fuel with
  | zero => rfl
  | succ fuel => rw [entries?, entries?, after?_congr h, name?_congr h]

/-- Blanks mean nothing, so a writer may put them anywhere between tokens. -/
theorem next?_space (rest : List CodePoint) : next? (' ' :: rest) = next? rest :=
  next?_of_isIgnored rfl rest

/-- The separator of pieces means nothing: commas and blanks are both ignored. -/
theorem next?_separator (rest : List CodePoint) : next? (',' :: ' ' :: rest) = next? rest := by
  rw [next?_of_isIgnored rfl, next?_space]

/-- What follows a punctuator is found, and left as it is. -/
theorem after?_mark {c : Char} (h : c ∈ marks) (rest : List CodePoint) :
    after? c (c :: rest) = some rest := by
  rw [after?, next?_mark h]
  exact if_pos rfl

/-- A name is found, up to what cannot go on with it. -/
theorem name?_append {name : Text} (hname : isName name = true) {rest : List CodePoint}
    (hrest : Stops isNameChar rest) : name? (name.toList ++ rest) = some (name, rest) := by
  rw [name?, next?_name hname hrest]

/-- A value does not start with a closing bracket, so the reader of a list never takes an item for
the end of the list. -/
theorem after?_of_value? {fuel : Nat} {text : List CodePoint} {read : Term × List CodePoint}
    (h : value? fuel text = some read) : after? ']' text = none := by
  cases fuel with
  | zero => cases h
  | succ fuel =>
      rw [value?] at h
      rw [after?]
      split
      -- A value starts with a token of its own, which is not the bracket.
      · rename_i c rest hnext
        refine if_neg ?_
        rintro rfl
        rw [hnext] at h
        cases h
      · rfl

/-- A name does not start with a punctuator, so a field is never taken for the end of an object. -/
theorem after?_of_name? {text : List CodePoint} {read : Text × List CodePoint}
    (h : name? text = some read)
    (c : Char) : after? c text = none := by
  rw [name?] at h
  rw [after?]
  -- The next token is the name that was read, which is no mark.
  split at h
  · rename_i name rest hnext
    rw [hnext]
  · cases h

/-- A list ends at its closing bracket. The reader asks for the bracket first, so it does not try to
read an item there. -/
theorem items?_nil (fuel : Nat) {text rest : List CodePoint} (h : after? ']' text = some rest) :
    items? (fuel + 1) text = some ([], rest) := by
  rw [items?, h]

/-- A list goes on with an item. The reader asks for the bracket first, and an item rules it out. -/
theorem items?_cons {fuel : Nat} {text rest after : List CodePoint} {item : Term}
    {items : List Term}
    (hitem : value? fuel text = some (item, rest))
    (hitems : items? fuel rest = some (items, after)) :
    items? (fuel + 1) text = some (item :: items, after) := by
  rw [items?, after?_of_value? hitem, hitem]
  simp only [Option.bind_eq_bind, Option.bind_some, hitems]
  rfl

/-- Names with values end at the closing punctuator, which is asked for first. -/
theorem entries?_nil (fuel : Nat) {close : Char} {text rest : List CodePoint}
    (h : after? close text = some rest) : entries? (fuel + 1) close text = some ([], rest) := by
  rw [entries?, h]

/-- Names with values go on with a name, a colon and a value, and what is left is read with less
fuel. -/
theorem entries?_cons {fuel : Nat} {close : Char} {text colon value rest after : List CodePoint}
    {name : Text} {item : Term} {entries : List (Text × Term)}
    (hname : name? text = some (name, colon)) (hcolon : after? ':' colon = some value)
    (hvalue : value? fuel value = some (item, rest))
    (hentries : entries? fuel close rest = some (entries, after)) :
    entries? (fuel + 1) close text = some ((name, item) :: entries, after) := by
  -- A name rules out the closing mark, so the reader goes on with it.
  rw [entries?, after?_of_name? hname, hname]
  simp only [Option.bind_eq_bind, Option.bind_some, hcolon, hvalue, hentries]
  rfl

/-- A field without a selection is its name, its alias and its arguments. What follows must not open
a selection. -/
theorem field?_leaf {fuel : Nat} {text arguments rest : List CodePoint} {aliasName : Option Text}
    {name : Text} {given : List (Text × Term)}
    (haliased : aliased? text = some (aliasName, name, arguments))
    (harguments : arguments? fuel arguments = some (given, rest))
    (hopen : after? '\x7b' rest = none) :
    field? (fuel + 1) text = some (.mk aliasName name given [], rest) := by
  rw [field?, haliased]
  simp only [Option.bind_eq_bind, Option.bind_some, harguments, hopen]
  rfl

/-- A field with a selection has at least one field in it. An empty selection is refused, which is
why the list of selections is given as nonempty. -/
theorem field?_node {fuel : Nat} {text arguments rest inner after : List CodePoint}
    {aliasName : Option Text} {name : Text} {given : List (Text × Term)} {first : Field}
    {others : List Field} (haliased : aliased? text = some (aliasName, name, arguments))
    (harguments : arguments? fuel arguments = some (given, rest))
    (hopen : after? '\x7b' rest = some inner)
    (hinner : selections? fuel inner = some (first :: others, after)) :
    field? (fuel + 1) text = some (.mk aliasName name given (first :: others), after) := by
  rw [field?, haliased]
  simp only [Option.bind_eq_bind, Option.bind_some, harguments, hopen, hinner]
  rfl

/-- A selection ends at its closing brace, which is asked for first. -/
theorem selections?_nil (fuel : Nat) {text rest : List CodePoint}
    (h : after? '\x7d' text = some rest) :
    selections? (fuel + 1) text = some ([], rest) := by
  rw [selections?, h]

/-- A selection goes on with a field, if the brace does not come first. -/
theorem selections?_cons {fuel : Nat} {text rest after : List CodePoint} {field : Field}
    {fields : List Field} (hclose : after? '\x7d' text = none)
    (hfield : field? fuel text = some (field, rest))
    (hfields : selections? fuel rest = some (fields, after)) :
    selections? (fuel + 1) text = some (field :: fields, after) := by
  rw [selections?, hclose, hfield]
  simp only [Option.bind_eq_bind, Option.bind_some, hfields]
  rfl

end FacetSearch.Grammar
