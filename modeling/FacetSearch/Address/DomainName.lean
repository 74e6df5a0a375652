import FacetSearch.Address.DomainFault
import FacetSearch.Text.Composed
import FacetSearch.Text.Direction
import FacetSearch.Text.DomainLetter
import FacetSearch.Text.Joined
import FacetSearch.Text.Joining
import FacetSearch.Text.Lowercase
import FacetSearch.Text.Punycode
import FacetSearch.Text.Split

/-!
# `FacetSearch.Address.DomainName`: domain names of every script

A domain name is labels with dots between them. A label of another script than ASCII stands in an
address as `xn--` and its Punycode. Only some labels can stand there at all: they hold letters,
digits, marks and single hyphens inside, in composed form, start with no mark, and run in one
direction.
-/

set_option autoImplicit false

namespace FacetSearch.Address

/-- A character of ASCII. -/
def isAscii (c : Char) : Bool := decide (c.toNat < 128)

/-- A digit with a form of its own in Arabic. -/
def isArabicForm (c : Char) : Bool := decide (1632 ≤ c.toNat) && decide (c.toNat < 1642)

/-- A digit with a form of its own in Persian and Urdu. -/
def isPersianForm (c : Char) : Bool := decide (1776 ≤ c.toNat) && decide (c.toNat < 1786)

/-- What is wrong with the place of a character that must fit. -/
def placeFault? (fits : Bool) : Option DomainFault := if fits then none else some .place

/-- What is wrong with the place of a sign that joins letters or keeps them apart. It follows a
virama, or stands where it is allowed after a character about which enough is known; elsewhere the
label is malformed. -/
def joinerFault? (before : List Char) (allowed : Bool) : Option DomainFault :=
  let fits :=
    match before.getLast? with
    | some c => (direction? c).isSome && (isVirama c || allowed)
    | none => false
  if fits then none else some .malformed

/-- What is wrong with a character between others in a label. Some characters stand in a label only
where they fit. -/
def characterFault? (before : List Char) (c : Char) (after : List Char) : Option DomainFault :=
  let precedes (p : Char → Bool) := before.getLast?.any p
  let follows (p : Char → Bool) := after.head?.any p
  let others := before ++ after
  if isLabelChar c then none
  else
    match c.toNat with
    | 183 => placeFault? (precedes (· == 'l') && follows (· == 'l'))
    | 885 => placeFault? (follows fun d => flippedAt greekBoundaries d.toNat)
    | 1523 => placeFault? (precedes fun d => flippedAt hebrewBoundaries d.toNat)
    | 1524 => placeFault? (precedes fun d => flippedAt hebrewBoundaries d.toNat)
    | 8204 => joinerFault? before (joinsAcross before after)
    | 8205 => joinerFault? before false
    | 12539 => placeFault? (others.any fun d => flippedAt japaneseBoundaries d.toNat)
    | _ =>
        if isArabicForm c then placeFault? (!others.any isPersianForm)
        else if isPersianForm c then placeFault? (!others.any isArabicForm)
        else some .character

/-- The first fault of a character of a label, after those before it. -/
def firstFault? : List Char → List Char → Option DomainFault
  | _, [] => none
  | before, c :: after => (characterFault? before c after).or (firstFault? (before ++ [c]) after)

/-- Whether a label of known directions runs in one of them. One with a letter or digit of a script
from right to left starts with such a letter, holds no letter of another script and not both kinds
of digits, and ends with a letter or digit, marks aside. -/
def isOneDirection (directions : List Direction) : Bool :=
  !(directions.contains .rightToLeft || directions.contains .arabicDigit) ||
    directions.head? == some .rightToLeft && !directions.contains .leftToRight &&
      (directions.reverse.dropWhile (· == .mark)).head?.any (· != .neutral) &&
      !(directions.contains .arabicDigit && directions.contains .europeanDigit)

/-- What is wrong with the directions of a label. -/
def directionFault? (label : List Char) : Option DomainFault :=
  match label.mapM direction? with
  | some directions => if isOneDirection directions then none else some .direction
  | none => some .direction

/-- What is wrong with a label, if anything is. -/
def labelFault? (label : List Char) : Option DomainFault :=
  if label.isEmpty || !isComposed label || (label.drop 2).take 2 == ['-', '-'] ||
      label.head? == some '-' || label.getLast? == some '-' || label.head?.any isMark then
    some .malformed
  else (firstFault? [] label).or (directionFault? label)

/-- What labels in Punycode start with. -/
def punycodeStart : List Char := ['x', 'n', '-', '-']

/-- What is wrong with a label of ASCII, whose Punycode counts as the text that it stands for. -/
def asciiLabelFault? (label : List Char) : Option DomainFault :=
  if punycodeStart.isPrefixOf label then
    let code := label.drop 4
    if code.isEmpty || code.getLast? == some '-' then some .malformed
    else
      match Punycode.decode? code with
      | some text => labelFault? text
      | none => some .malformed
  else labelFault? label

/-- A label as it stands in an address. -/
def encodedLabel (label : List Char) : Except DomainFault (List Char) :=
  let encoded := if label.all isAscii then label else punycodeStart ++ Punycode.encode label
  match if label.all isAscii then asciiLabelFault? label else labelFault? label with
  | some fault => .error fault
  | none => if 63 < encoded.length then .error .malformed else .ok encoded

/-- The characters that stand between labels. -/
def isDot (c : Char) : Bool :=
  c == '.' || c.toNat == 12290 || c.toNat == 65294 || c.toNat == 65377

/-- The labels of a name. An empty one at its end is left out, and told by the flag. -/
def labelsOf (name : List Char) : List (List Char) × Bool :=
  let labels := partsAt '.' (name.map fun c => if isDot c then '.' else c)
  if labels.getLast? = some [] then (labels.dropLast, true) else (labels, false)

/-- The most characters of a name, the dot at its end counted. -/
def nameLimit : Nat := 254

/-- A domain name as it stands in an address. -/
def domainName? (name : List Char) : Option (List Char) := do
  let name := lowercaseText name
  if nameLimit < name.length then none
  let (labels, isRooted) := labelsOf name
  let encoded ← (labels.mapM encodedLabel).toOption
  let joinedName := joined ['.'] encoded ++ (if isRooted then ['.'] else [])
  if labels.isEmpty || (if isRooted then nameLimit else nameLimit - 1) < joinedName.length then none
  else some joinedName

/-- What is wrong with a name of ASCII that starts with Punycode. Other names are taken as they
are. -/
def nameFault? (name : List Char) : Option DomainFault :=
  if !punycodeStart.isPrefixOf name then none
  else if nameLimit < name.length then some .malformed
  else (labelsOf name).1.findSome? asciiLabelFault?

end FacetSearch.Address
