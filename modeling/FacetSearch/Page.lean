import FacetSearch.Checked
import FacetSearch.Frame

/-!
# `FacetSearch.Page`: one page of a profile listing

A page knows its number, counted from zero, its size and its profiles. A page that is full may have
a next one. The positions of its profiles in the whole listing count from one.

As a frame a page has one row per profile. Mappings inside a profile are flattened to dotted names:
first come the entries that are no mappings, then the flattened ones; an empty mapping leaves
nothing.
-/

set_option autoImplicit false

namespace FacetSearch.Page

/-- The name of the record in reports. -/
def recordName : String := "ProfileSearchPage"

/-- Checks the fields of a page. A page without fields is the first one, of the usual size and with
no profiles. -/
def check (given : Given) : Checked Page :=
  ((given.withDefault "profiles" []
      (Value.checkList (Value.checkMapping Value.checkAny))).both <|
    (given.withDefault "page" 0 Value.checkInteger).both
      (given.withDefault "page_size" 25 Value.checkInteger)).map
    fun (profiles, number, size) => { profiles, number, size }

/-- The page of the given fields. -/
def ofGiven (given : Given) : Except Failure Page := (check given).asOutcome recordName

/-- Whether there may be a next page. A page cannot know more than that it is full, so there may be
an empty page behind the last one. -/
def hasNext (p : Page) : Bool := decide (p.size ≤ p.profiles.length)

/-- The position in the whole listing of the first profile, counted from one. An empty page has one
too, which is then no profile's. -/
def firstIndex (p : Page) : Int := p.number * p.size + 1

/-- The position in the whole listing of the last profile. On an empty page it is the one before the
first. -/
def lastIndex (p : Page) : Int := p.number * p.size + p.profiles.length

/-- A name below another. Nothing stands before a name at the top. -/
def dotted (outer inner : Text) : Text := if outer.isEmpty then inner else outer ++ "." ++ inner

mutual

/-- The entries that a value under a name flattens to. -/
def flattened (name : Text) : Value → List (Text × Value)
  | .map entries => flattenedEntries name entries
  | other => [(name, other)]

/-- The entries that the entries of a mapping under a name flatten to. -/
def flattenedEntries (name : Text) : List (Value × Value) → List (Text × Value)
  | [] => []
  | (key, value) :: rest =>
      flattened (dotted name key.plainString) value ++ flattenedEntries name rest

end

/-- A profile as a row: the entries at the top, then the flattened ones. Where a flattened name is
that of an entry at the top, it takes its place. -/
def record (profile : List (Text × Value)) : List (Text × Value) :=
  let (nested, top) := profile.partition fun entry => entry.2.entries?.isSome
  Entries.putAll top (nested.flatMap fun entry => flattened entry.1 entry.2)

/-- The frame of a page. -/
def toFrame (p : Page) : Except Failure Frame := Frame.ofRecords (p.profiles.map record)

end FacetSearch.Page
