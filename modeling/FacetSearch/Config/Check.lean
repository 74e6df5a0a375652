import FacetSearch.Checked

/-!
# `FacetSearch.Config.Check`: accepting configurations

A configuration is given by its fields, or by some of them and the environment: `GRID_ENDPOINT` and
`GRID_API_KEY` stand in for an endpoint and a key that are missing or count as false, and
`GRID_TIMEOUT`, unless empty, for a timeout that is not given at all.
-/

set_option autoImplicit false

namespace FacetSearch.Config

/-- The name of the record in reports. -/
def recordName : String := "GridConfig"

/-- Checks the fields of a configuration. The endpoint may be any text, so whether it is an address
shows when a request is posted. -/
def check (given : Given) : Checked Config :=
  ((given.required "endpoint" Value.checkText).both <|
    (given.withDefault "api_key" none (Value.checkOptional Value.checkText)).both <|
    (given.withDefault "headers" [] (Value.checkMapping Value.checkText)).both
      (given.withDefault "timeout" (Binary64.ofInt 30) Value.checkDouble)).map
    fun (endpoint, apiKey, headers, timeout) => { endpoint, apiKey, headers, timeout }

/-- The configuration of the given fields. -/
def ofGiven (given : Given) : Except Failure Config := (check given).asOutcome recordName

/-- A given field, or the variable of the environment where the field counts as false. An empty text
is thus overruled by the environment. -/
def orVariable (given : Given) (name variableName : Text)
    (environment : List (Text × Text)) : Value :=
  let value := (Value.get? given name).getD .null
  if value.isTruthy then value
  else
    match Entries.get? environment variableName with
    | some text => .text text
    | none => .null

/-- The configuration of the given fields under an environment. A timeout that is given counts
before the variable, which is not even read then. -/
def ofEnvironment (given : Given) (environment : List (Text × Text)) :
    Except Failure Config := do
  let endpoint := orVariable given "endpoint" "GRID_ENDPOINT" environment
  if !endpoint.isTruthy then throw .noEndpoint
  let apiKey := orVariable given "api_key" "GRID_API_KEY" environment
  let setting := (Entries.get? environment "GRID_TIMEOUT").getD ""
  let others := given.filter fun entry =>
    entry.1.text? != some ("endpoint" : Text) && entry.1.text? != some ("api_key" : Text)
  let timed ←
    if (Value.get? given "timeout").isSome || setting.isEmpty then .ok others
    else
      match setting.chars?.bind Binary64.lenient? with
      | some seconds => .ok (others ++ [(.text "timeout", .float seconds)])
      | none => .error (.unreadableSetting setting)
  ofGiven ((.text "endpoint", endpoint) :: (.text "api_key", apiKey) :: timed)

end FacetSearch.Config
