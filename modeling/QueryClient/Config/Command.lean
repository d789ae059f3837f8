import QueryClient.Config.Settings
import QueryClient.Parameter

/-!
# Calls on settings

What can be done with the settings of a connection, as callers name it.
-/

namespace QueryClient.Config

/-- What is done with settings. -/
inductive Command where
  /-- Set options one after the other. -/
  | apply (options : List (String × Value))
  | startSession
  | get (key : String) (default : Value)
  | isSet (key : String)
  /-- The bound on the execution time. -/
  | timeout
  | parameters
  /-- The parameters of a request with its own ones and without some. -/
  | effectiveParameters (own : List (String × Value)) (excluded : List String)

/-- The entries of a dictionary by the text of their keys. -/
def namedEntries : Value → List (String × Value)
  | .dict entries => entries.map fun (k, v) => (k.display, v)
  | _ => []

/-- The entries of a dictionary, which must be one. -/
def requiredEntries : Value → Except Fault (List (String × Value))
  | .dict entries => .ok (namedEntries (.dict entries))
  | _ => .error .lacksMember

/-- The entries of a dictionary; what counts as false has none. -/
def optionalEntries (v : Value) : Except Fault (List (String × Value)) :=
  if v.isTruthy then requiredEntries v else .ok []

namespace Command

open Parameter (required optional nth)

def setting (o : TypedOption) : List Value → Except Fault Command
  | v :: _ => .ok (apply [(o.name, v)])
  | [] => .ok (apply [])

/-- The parameters and the command of a call by its name. -/
def signature? : String → Option (List Parameter × (List Value → Except Fault Command))
  | "set" => some ([required "key", required "value"], fun vs =>
    .ok (apply [((nth vs 0).display, nth vs 1)]))
  | "apply" => some ([required "values"], fun vs => do
    return apply (← requiredEntries (nth vs 0)))
  | "set_database" => some ([required "database"], setting .database)
  | "set_max_execution_time" => some ([required "seconds"], setting .maxExecutionTime)
  | "set_enable_http_compression" => some ([required "flag"], setting .httpCompression)
  | "set_https" => some ([optional "flag" (.bool true)], setting .https)
  | "set_readonly" => some ([required "level"], setting .readonly)
  | "set_readonly_user" => some ([optional "flag" (.bool true)], setting .readonlyUser)
  | "make_session_id" => some ([], fun _ => .ok startSession)
  | "get" => some ([required "key", optional "default" .null], fun vs =>
    .ok (get (nth vs 0).display (nth vs 1)))
  | "is_set" => some ([required "key"], fun vs => .ok (isSet (nth vs 0).display))
  | "timeout" => some ([], fun _ => .ok timeout)
  | "to_parameters" => some ([], fun _ => .ok parameters)
  | "effective_parameters" =>
    some ([optional "request_params" .null, optional "exclude" (.tuple [])], fun vs => do
      return effectiveParameters (← optionalEntries (nth vs 0))
        ((← (nth vs 1).elements).map Value.display))
  | _ => none

def ofCall (name : String) (placed : List Value) (named : List (String × Value)) :
    Except Fault Command :=
  match signature? name with
  | none => .error .lacksMember
  | some (ps, build) =>
    match Parameter.place? id ps named placed with
    | some vs => build vs
    | none => .error .wrongKind

end Command

/-- Run a command. Options that were set before one that does not fit stay set. -/
def Settings.run (s : Settings) : Command → Settings × Except Fault CallAnswer
  | .apply options =>
    match s.apply options with
    | (s, none) => (s, .ok .itself)
    | (s, some fault) => (s, .error fault)
  | .startSession =>
    let s := s.startSession
    (s, .ok (.value (s.option .sessionId)))
  | .get key default => (s, .ok (.value (s.get key default)))
  | .isSet key => (s, .ok (.value (.bool (s.isSet key))))
  | .timeout => (s, .ok (.value (.int s.maxExecutionTime)))
  | .parameters => (s, .ok (.entries s.parameters))
  | .effectiveParameters own excluded => (s, .ok (.entries (s.effectiveParameters own excluded)))

end QueryClient.Config
