import QueryClient.Connection.Requests
import QueryClient.Http.Stream
import QueryClient.Result.Basic

/-!
# Executing statements

Statements are sent at once or put into the queue. Whatever comes of a request, it is completed
first: its result file is closed and the listener is told about the progress. Reading leaves it to
the caller to look at errors; writing and transfers raise them.
-/

namespace QueryClient

open Files (ExternalTable ResultFile)
open Http (Request Stream)

def Result.ofRequest (r : Request) : Result :=
  { response := r.response.getD default, sql := r.sql, format := r.format }

namespace Connection

/-! ## After completion -/

/-- What a listener does with a response: only successful ones with a summary are told. -/
def hear (listener : Option Listener) (response : Http.Response) : List Heard :=
  if !response.isOk then []
  else
    match listener, Result.summary? (response.header? Result.summaryHeader) with
    | some .attentive, some members => [.summary members]
    | some .failing, some _ => [.failed]
    | _, _ => []

/-- Take in what a completed request leaves behind: the content of its file, and its progress. -/
def settle (c : Connection) (r : Request) : Connection :=
  let store :=
    match r.sink with
    | some sink =>
      if sink.closed then c.store.write sink.place sink.number sink.content else c.store
    | none => c.store
  let told := r.runs.filter (·.hook == .report)
  { c with store, heard := c.heard ++ told.flatMap fun run => hear c.listener run.response }

def execute (c : Connection) (r : Request) : Connection × Request × Option Fault :=
  let (queue, r, fault) := c.queue.execute c.store r
  ({ c with queue }.settle r, r, fault)

/-- Execute a request that was made, unless making it failed. -/
def executeMade (c : Connection) : Except Fault (Connection × Request) →
    Connection × Except Fault Request
  | .error fault => (c, .error fault)
  | .ok (c, r) =>
    match c.execute r with
    | (c, r, none) => (c, .ok r)
    | (c, _, some fault) => (c, .error fault)

/-- Raise the failure of a request. -/
def raising (outcome : Connection × Except Fault Request) : Connection × Except Fault Request :=
  match outcome with
  | (c, .ok r) =>
    let result := Result.ofRequest r
    (c, if result.isError then .error result.fault else .ok r)
  | other => other

/-! ## Statements -/

/-- The request that reads with a statement. -/
def reading (c : Connection) (sql bindings : Value) (tables : List ExternalTable)
    (file : Option ResultFile) : Except Fault (Connection × Request) := do
  let (c, r, _) ← c.readRequest (← readStatement sql bindings) tables file
  return (c, r)

/-- Read with a statement. -/
def select (c : Connection) (sql bindings : Value) (tables : List ExternalTable := [])
    (file : Option ResultFile := none) : Connection × Except Fault Request :=
  c.executeMade (c.reading sql bindings tables file)

def write (c : Connection) (sql bindings : Value) (raises : Bool := true) :
    Connection × Except Fault Request :=
  let outcome := c.executeMade do
    return (c, ← c.writeRequest (← writeStatement sql bindings))
  if raises then raising outcome else outcome

/-! ## The queue -/

/-- Execute the requests in the queue, one after the other. -/
def runTickets (c : Connection) : List Nat → Connection
  | [] => c
  | ticket :: rest =>
    let queue := ((c.queue.start ticket).finish c.store ticket).release ticket
    let c := { c with queue }
    let c := match queue.request? ticket with
      | some r => c.settle r
      | none => c
    c.runTickets rest

/-- Execute the requests in the queue, unless they are held. -/
def runPending (c : Connection) : Connection :=
  if c.held then c else c.runTickets c.queue.pending

/-- Put a statement to read with into the queue; its ticket comes back. -/
def selectLater (c : Connection) (sql bindings : Value) (tables : List ExternalTable := [])
    (file : Option ResultFile := none) : Connection × Except Fault Nat :=
  match c.reading sql bindings tables file with
  | .error fault => (c, .error fault)
  | .ok (c, r) =>
    let (queue, ticket) := c.queue.enqueue r
    ({ c with queue }.runPending, .ok ticket)

/-- Let the requests in the queue go on. -/
def release (c : Connection) : Connection :=
  { c with held := false }.runPending

/-- Wait for the requests in the queue; true when none is left. -/
def wait (c : Connection) : Connection × Bool :=
  let c := c.runPending
  (c, c.queue.countPending == 0)

def close (c : Connection) : Connection :=
  { c with queue := c.runPending.queue.close }

/-! ## Transfers -/

/-- Transfer the data of a stream with a request that was made for it. An upload is closed at the
end, whatever comes of it. -/
def transfer (c : Connection) (s : Stream) (made : Except Fault (Connection × Request)) :
    Connection × Stream × Except Fault Request :=
  match made with
  | .error fault => (c, s, .error fault)
  | .ok (c, r) =>
    match s.attach r with
    | .error fault => (c, if s.kind == .upload then s.close else s, .error fault)
    | .ok r =>
      let (c, r, fault) := c.execute r
      let s := if s.kind == .upload then s.close else s.receive (r.download.getD [])
      match fault with
      | some fault => (c, s, .error fault)
      | none =>
        let (c, outcome) := raising (c, .ok r)
        (c, s, outcome)

/-- Read with a statement and write the answer into a stream. -/
def streamRead (c : Connection) (s : Stream) (sql bindings : Value) :
    Connection × Stream × Except Fault Request :=
  c.transfer s do
    let (c, r, _) ← c.readRequest (← streamStatement sql bindings) [] none
    return (c, r)

/-- Send the data of a stream with a statement. -/
def streamWrite (c : Connection) (s : Stream) (sql bindings : Value) :
    Connection × Stream × Except Fault Request :=
  c.transfer s do return (c, ← c.uploadRequest (← streamStatement sql bindings))

/-! ## Liveness -/

def aliveBody : String :=
  "Ok.\n"

/-- Ask whether the server is alive. -/
def ping (c : Connection) : Connection × Except Fault Bool :=
  match c.uri with
  | .error fault => (c, .error fault)
  | .ok url =>
    let r : Request := { method := "GET", url, connectTimeout := c.connectTimeout }
    let r := if c.certificates.isTruthy then { r with verify := c.certificates } else r
    match c.execute r with
    | (c, _, some fault) => (c, .error fault)
    | (c, r, none) =>
      let response := r.response.getD default
      (c, .ok (response.error.isNone && response.text == aliveBody))

end Connection

end QueryClient
