import FacetSearch.Address.DomainName
import FacetSearch.Number.Numeral
import FacetSearch.Text.Percent
import FacetSearch.Text.Split

/-!
# `FacetSearch.Address.Host`: hosts of addresses

A host is an internet address of version 4, one of version 6 in brackets, or a name. Four groups of
digits with dots between them must be an address of version 4; any other row of digits is a name. A
name of ASCII is taken in lower case, with what may not stand in it escaped; any other name is
encoded label by label (`FacetSearch.Address.DomainName`).
-/

set_option autoImplicit false

namespace FacetSearch.Address

/-- Four groups of digits with dots between them. -/
def looksNumeric (host : List Char) : Bool :=
  let groups := partsAt '.' host
  groups.length == 4 && groups.all fun group => !group.isEmpty && group.all Char.isDigit

/-- One group of an address of version 4: a number up to 255 without leading zeros. -/
def isOctet (digits : List Char) : Bool :=
  match naturalOf? digits with
  | some n => decide (n < 256) && decide (digits.length ≤ 3) &&
      (digits.length == 1 || digits.head? != some '0')
  | none => false

/-- An address of version 4. -/
def isVersion4 (host : List Char) : Bool :=
  let groups := partsAt '.' host
  groups.length == 4 && groups.all isOctet

/-- One group of an address of version 6. -/
def isHextet (digits : List Char) : Bool :=
  !digits.isEmpty && decide (digits.length ≤ 4) && digits.all fun c => (hexValue? c).isSome

/-- The groups of an address of version 6, where an address of version 4 at the end stands for two
groups. -/
def hextetGroups? (groups : List (List Char)) : Option (List (List Char)) :=
  match groups.getLast? with
  | some last =>
      if last.contains '.' then
        if isVersion4 last then some (groups.dropLast ++ [['0'], ['0']]) else none
      else some groups
  | none => none

/-- Groups around the gap of an address of version 6: empty groups may only stand at its ends, where
the gap takes them in. -/
def areGroupsAround (before after : List (List Char)) : Bool :=
  let before := if before = [[]] then [] else before
  let after := if after = [[]] then [] else after
  before.all isHextet && after.all isHextet && decide (before.length + after.length < 8)

/-- The groups of an address of version 6: eight, or fewer with one gap, an empty group that is
neither the first nor the last. -/
def areGroups (groups : List (List Char)) : Bool :=
  let inner := (groups.drop 1).dropLast
  if inner.contains [] then
    let before := (groups.take 1) ++ inner.takeWhile (· != [])
    let after := (inner.dropWhile (· != [])).drop 1 ++ groups.drop (groups.length - 1)
    !after.dropLast.contains [] && areGroupsAround before after
  else groups.length == 8 && groups.all isHextet

/-- An address of version 6, with a zone after a percent sign or without. -/
def isVersion6 (host : List Char) : Bool :=
  let zone := (host.dropWhile (· != '%')).drop 1
  let hasZone := host.contains '%'
  let groups := partsAt ':' (host.takeWhile (· != '%'))
  !(hasZone && (zone.isEmpty || zone.contains '%')) && !host.contains '/' &&
    decide (3 ≤ groups.length) &&
    match hextetGroups? groups with
    | some groups => decide (groups.length ≤ 9) && areGroups groups
    | none => false

/-- What may stand in a name besides letters and digits. -/
def nameMarks : List Char :=
  ['-', '.', '_', '~', '!', '$', '&', '\'', '(', ')', '*', '+', ',', ';', '=', '"', '\x60',
    '\x7b', '\x7d', '%', '|', '\\']

/-- A host in its one form, without brackets. -/
def readHost? (host : List Char) : Option (List Char) :=
  if host.isEmpty then some []
  else if looksNumeric host then (if isVersion4 host then some host else none)
  else
    let inner := (host.drop 1).dropLast
    if host.head? = some '[' ∧ host.getLast? = some ']' ∧ 2 ≤ host.length then
      if isVersion6 inner then some inner else none
    else if host.all fun c => decide (c.toNat < 128) then
      some (percentEncoded (fun c => c.isAlphanum || nameMarks.contains c) (host.map Char.toLower))
    else domainName? host

end FacetSearch.Address
