import FacetSearch.Entries
import FacetSearch.Failure
import FacetSearch.Number.Numeral
import FacetSearch.Value.Fields
import FacetSearch.Value.Key

/-!
# `FacetSearch.Checked`: checking values against declared types

A check takes a value to a result of the declared type or to the list of all its issues, in the
order of the value. Checks of several fields go on after the first fault, so one report lists them
all. The leaf checks accept more than the exact kind: a text field takes byte strings that are
UTF-8, a number field takes flags and readable text, a list field takes whatever yields items.
-/

set_option autoImplicit false

namespace FacetSearch

/-- A result, or every issue found. Unlike an operation, which ends with its first failure, a check
of several fields finds out what is wrong with each of them. -/
abbrev Checked (α : Type) : Type := Except (List Issue) α

namespace Checked

/-- One fault right here. -/
def fault {α : Type} (f : Fault) : Checked α := .error [⟨[], f⟩]

/-- The same issues, one step further out. Each check reports from its own place, and the path grows
as the report is passed on. -/
def under {α : Type} (item : PathItem) : Checked α → Checked α
  | .ok x => .ok x
  | .error issues => .error (issues.map (·.under item))

/-- Both results, or the issues of both, the first ones first. The second check is made even when
the first has failed. -/
def both {α β : Type} : Checked α → Checked β → Checked (α × β)
  | .ok a, .ok b => .ok (a, b)
  | .ok _, .error issues => .error issues
  | .error issues, .ok _ => .error issues
  | .error issues, .error more => .error (issues ++ more)

/-- Results of a list of checks, or all their issues, in the order of the list. -/
def all {α : Type} : List (Checked α) → Checked (List α)
  | [] => .ok []
  | c :: cs =>
      match both c (all cs) with
      | .ok (x, xs) => .ok (x :: xs)
      | .error issues => .error issues

/-- Checks items in order. Each issue carries the position of its item among all of them, the
accepted ones too. -/
def items {α : Type} (check : Value → Checked α) (values : List Value) : Checked (List α) :=
  all (values.mapIdx fun position value => (check value).under (.index position))

/-- The result as an operation's outcome, under the name of the record that was checked. All issues
go into one failure. -/
def asOutcome {α : Type} (record : String) : Checked α → Except Failure α
  | .ok x => .ok x
  | .error issues => .error (.invalid record issues)

end Checked

/-- The string of bytes that are UTF-8. -/
def utf8Text? (bytes : List UInt8) : Option String := String.fromUTF8? ⟨bytes.toArray⟩

namespace Value

/-- A text field. A dimension is the text of its name, and bytes are what they spell; nothing else
is a text, not even a number. -/
def checkText : Value → Checked Text
  | .text content => .ok content
  | .dimension d => .ok d.text
  | .bytes content =>
      match utf8Text? content with
      | some decoded => .ok decoded
      | none => .fault .notUnicode
  | _ => .fault .notText

/-- A text field that takes numbers by their text. Identifiers and names of rows are such fields,
since the service numbers its rows. A flag is no number here. -/
def checkLabel : Value → Checked Text
  | .int number => .ok (.ofChars (integerText number))
  | .float number => .ok (.ofChars number.text)
  | .decimal number => .ok (.ofChars number.text)
  | other => other.checkText

/-- A field that may be null. Any other value must pass the check. -/
def checkOptional {α : Type} (check : Value → Checked α) : Value → Checked (Option α)
  | .null => .ok none
  | other => (check other).map some

/-- A number field of a text. Numbers are read from characters alone, so a text with a surrogate is
refused before it is read. -/
def ofCharacters {α : Type} (read : List Char → Checked α) (content : Text) : Checked α :=
  match content.chars? with
  | some chars => read chars
  | none => .fault .notUnicode

/-- A whole-number field read from text. A text with too many digits is told apart from one that is
no number. -/
def integerOfText (text : List Char) : Checked Int :=
  match fieldInteger text with
  | .ok n => .ok n
  | .error .unreadable => .fault .unreadableInteger
  | .error .oversized => .fault .oversizedInteger

/-- A whole-number field from a double, which must lie strictly between `-2^63` and `2^63`. -/
def integerOfDouble (number : Binary64) : Checked Int :=
  if !number.isFinite then .fault .notFinite
  else
    match number.integer? with
    | some n => if n.natAbs < twoTo 63 then .ok n else .fault .oversizedInteger
    | none => .fault .fractionalInteger

/-- A whole-number field. Numbers of other types are taken when they are whole, and texts when they
spell a whole number, so nothing is rounded. -/
def checkInteger : Value → Checked Int
  | .bool flag => .ok (if flag then 1 else 0)
  | .int number => .ok number
  | .float number => integerOfDouble number
  | .decimal number =>
      if !number.isFinite then .fault .notFinite
      else
        match number.integer? with
        | some n => .ok n
        | none => .fault .fractionalInteger
  | .text content => ofCharacters integerOfText content
  -- A dimension is a text, but none of its names is a number.
  | .dimension _ => .fault .unreadableInteger
  | .bytes content =>
      match utf8Text? content with
      | some decoded => integerOfText decoded.toList
      | none => .fault .unreadableInteger
  | _ => .fault .notInteger

/-- A number field read from text. -/
def doubleOfText (text : List Char) : Checked Binary64 :=
  match fieldDouble? text with
  | some x => .ok x
  | none => .fault .unreadableNumber

/-- A number field. Whole numbers and decimals are rounded to the nearest double, and refused when
they lie past all of them. -/
def checkDouble : Value → Checked Binary64
  | .bool flag => .ok (Binary64.ofInt (if flag then 1 else 0))
  | .int number =>
      let x := Binary64.ofInt number
      if x.isFinite then .ok x else .fault .notNumber
  | .float number => .ok number
  | .decimal number =>
      match number.toBinary64? with
      | some x => .ok x
      | none => .fault .notNumber
  | .text content => ofCharacters doubleOfText content
  | .dimension _ => .fault .unreadableNumber
  | .bytes content =>
      match utf8Text? content with
      | some decoded => doubleOfText decoded.toList
      | none => .fault .unreadableNumber
  | _ => .fault .notNumber

/-- A list field. It takes whatever yields items, a set and a record among them, and refuses what is
taken for one thing. -/
def checkList {α : Type} (check : Value → Checked α) (value : Value) : Checked (List α) :=
  match value.listed? with
  | some values => Checked.items check values
  | none => .fault .notList

/-- A key of a mapping as a step of a path. Keys of any kind have a step: small numbers are
positions, and everything else is named by its text. -/
def asPathItem : Value → PathItem
  | .text content => .name content
  | .dimension d => .name d.text
  | .bool flag => .index (if flag then 1 else 0)
  | .int number =>
      if -(twoTo 63 : Int) ≤ number ∧ number < (twoTo 63 : Int) then .index number
      else .name (.ofChars (integerText number))
  | other => .name (.ofList other.shown)

/-- A mapping field with text keys. A faulty key is reported with a mark after it, so that it is
told apart from a faulty value under the key. Keys that are one text are put together, with the last
value. -/
def checkMapping {α : Type} (check : Value → Checked α) : Value → Checked (List (Text × α))
  | .map entries =>
      (Checked.all (entries.map fun (key, value) =>
        (key.checkText.under (.name "[key]")).both (check value) |>.under key.asPathItem)).map
        (Entries.putAll [])
  | _ => .fault .notMapping

/-- A value that is taken as it is, whatever it is. -/
def checkAny (value : Value) : Checked Value := .ok value

end Value

/-- The fields of a record as they are given: entries whose text keys name fields. Other entries are
ignored by every check. -/
abbrev Given : Type := List (Value × Value)

namespace Given

/-- A required field. When it is missing, the issue names it all the same. -/
def required {α : Type} (given : Given) (name : Text) (check : Value → Checked α) : Checked α :=
  (match Value.get? given name with
    | some value => check value
    | none => .fault .missing).under (.name name)

/-- A field with a default. The default is not checked, as it is a result already. -/
def withDefault {α : Type} (given : Given) (name : Text) (default : α)
    (check : Value → Checked α) : Checked α :=
  match Value.get? given name with
  | some value => (check value).under (.name name)
  | none => .ok default

/-- A field with a default that is known by two names, of which the first wins. What stands under
the second name is then not looked at. -/
def withEitherName {α : Type} (given : Given) (first second : Text) (default : α)
    (check : Value → Checked α) : Checked α :=
  match Value.get? given first with
  | some value => (check value).under (.name first)
  | none => given.withDefault second default check

/-- A field that can only hold one text. It may be left out, and this is how a record of one kind is
made without naming the kind. -/
def constant (given : Given) (name text : Text) : Checked Unit :=
  given.withDefault name () fun value =>
    match value with
    | .text content => if content = text then .ok () else .fault .wrongConstant
    | _ => .fault .wrongConstant

end Given

end FacetSearch
