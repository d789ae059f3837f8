import QueryClient.Connection.Execution
import QueryClient.Query.Terminal

/-!
# Asking queries on a connection

A terminal is planned on the query, sent if there is something to send, and answered from the
result. Numbers that the server sends as text are read as numbers. The query stays as it is.
-/

namespace QueryClient

/-- A text as the number it names: a whole one if possible, else any number; other values and
texts that name no number are left alone. -/
def Value.numeric : Value → Value
  | .text s =>
    match Number.integerOfText? s with
    | some n => .int n
    | none =>
      match Number.floatOfText? s with
      | some x => .float x
      | none => .text s
  | v => v

/-- The cell of a row that must be there. -/
def Result.requiredCell (name : String) : Document → Except Fault Value
  | .object members =>
    match Entries.find? name members with
    | some d => .ok d.toValue
    | none => .error .missingKey
  | _ => .error .wrongKind

/-- The cell of the first row as a number; null when there is none. -/
def Result.number (r : Result) (name : String) : Except Fault Value := do
  let row ← r.first .null
  if row.toValue.isTruthy then return (← requiredCell name row).numeric
  else return .null

namespace Terminal

/-- A terminal is answered with a value or with the request that was executed. -/
inductive Reply where
  | value (v : Value)
  | document (d : Document)
  | request (r : Http.Request)

/-- A value, or zero when it counts as false. -/
def orZero (v : Value) : Value :=
  if v.isTruthy then v else .int 0

/-- The answer to a function over one column: counts are whole numbers, and sums of nothing are
zero. -/
def overAnswer (function : String) (v : Value) : Except Fault Value :=
  if function == "count" then (orZero v).toWhole.map .int
  else if function == "sum" then .ok (orZero v)
  else .ok v

/-- The answer to a terminal from the request that was executed for it. -/
def reply (terminal : Terminal) (r : Http.Request) : Except Fault Reply := do
  let result := Result.ofRequest r
  match terminal with
  | first => return .document ((← result.rows).headD .null)
  | hasRows => return .value (.bool (← result.number "exists").isTruthy)
  | aggregate => return .value (← result.number "aggregate")
  | overColumn function => return .value (← overAnswer function (← result.number "aggregate"))
  | _ => return .request r

end Terminal

def Connection.ask (c : Connection) (g : Grammar) (q : Query) (terminal : Terminal)
    (arguments : List Argument) : Connection × Except Fault Terminal.Reply :=
  let sent (outcome : Connection × Except Fault Http.Request) :
      Connection × Except Fault Terminal.Reply :=
    (outcome.1, outcome.2.bind terminal.reply)
  match terminal.plan g q arguments with
  | .error fault => (c, .error fault)
  | .ok (.answer v) => (c, .ok (.value v))
  | .ok (.read _ (.error fault)) | .ok (.write _ (.error fault)) => (c, .error fault)
  | .ok (.read sql (.ok values)) => sent (c.select (.text sql) (.list values))
  | .ok (.write sql (.ok values)) => sent (c.write (.text sql) (.list values))

end QueryClient
