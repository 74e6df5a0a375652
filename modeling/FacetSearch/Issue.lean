import FacetSearch.Text

/-!
# `FacetSearch.Issue`: what is wrong with a value, and where

Checking a value against a record type collects every fault it finds. Each issue names its place by
the path from the checked value: field names, positions in lists and keys of mappings, and the kind
of an expression after entering it.
-/

set_option autoImplicit false

namespace FacetSearch

/-- One step of a path: into a field or an entry by its name, or into a list by a position. Numeric
keys of mappings are steps of the second kind, so a position may be negative. -/
inductive PathItem where
  | name (text : Text)
  | index (position : Int)
  deriving DecidableEq

/-- What can be wrong with a value. There is one fault for each code that a report can have. -/
inductive Fault where
  | missing
  | notText
  | notUnicode
  | notList
  | notMapping
  | notInteger
  | fractionalInteger
  | unreadableInteger
  | oversizedInteger
  | notFinite
  | notNumber
  | unreadableNumber
  | notRecord
  | wrongConstant
  | notExpression
  | missingKind
  | unknownKind
  | frozen
  /-- Conjunctions stand in one another too deep. -/
  | nestedTooDeep
  | tooFewConditions
  deriving DecidableEq

/-- The code of a fault in an error report. -/
def Fault.code : Fault → String
  | .missing => "missing"
  | .notText => "string_type"
  | .notUnicode => "string_unicode"
  | .notList => "list_type"
  | .notMapping => "dict_type"
  | .notInteger => "int_type"
  | .fractionalInteger => "int_from_float"
  | .unreadableInteger => "int_parsing"
  | .oversizedInteger => "int_parsing_size"
  | .notFinite => "finite_number"
  | .notNumber => "float_type"
  | .unreadableNumber => "float_parsing"
  | .notRecord => "model_type"
  | .wrongConstant => "literal_error"
  | .notExpression => "model_attributes_type"
  | .missingKind => "union_tag_not_found"
  | .unknownKind => "union_tag_invalid"
  | .frozen => "frozen_instance"
  | .nestedTooDeep => "recursion_loop"
  | .tooFewConditions => "value_error"

/-- The wording that goes with a fault of the record's own rules. All other faults are worded by the
library that checks, and have no wording here. -/
def Fault.message? : Fault → Option String
  | .tooFewConditions =>
      some "Value error, And requires at least two conditions; use combine()"
  | _ => none

/-- A fault and the path to it, from the value that was checked. -/
structure Issue where
  path : List PathItem
  fault : Fault
  deriving DecidableEq

/-- The issue seen from one step further out. -/
def Issue.under (item : PathItem) (issue : Issue) : Issue :=
  { issue with path := item :: issue.path }

end FacetSearch
