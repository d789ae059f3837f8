import QueryClient.Config.Record
import QueryClient.Files.Store
import QueryClient.Http.Command
import QueryClient.Http.Session

/-!
# Executing requests

Requests are executed one at a time by the caller, or put into a queue and executed later in any
order. However a request ends, it is completed: a failure of the transfer or of the local system is
recorded on its response, and any other one is raised after that.
-/

namespace QueryClient.Http

open Gzip (Content)

/-! ## Sending one request -/

/-- Open the files that go with a request. -/
def openFiles (store : Files.Store) :
    List (String × String) → Except Disruption (List (String × String × Content))
  | [] => .ok []
  | (table, path) :: rest =>
    match store.content path with
    | .error fault => .error (.system (fault.message path))
    | .ok content => (openFiles store rest).map ((table, Files.baseName path, content) :: ·)

/-- The data that go with a request: an upload before files, and files before a body. Files are
opened here, while an upload is left to be read when it is sent. A body of a request that is sent in
chunks is one chunk. -/
def cargo (store : Files.Store) (chunkSize : Int) (r : Request) : Except Disruption Cargo :=
  match r.upload with
  | some upload => .ok (.upload upload chunkSize)
  | none =>
    if !r.files.isEmpty then (openFiles store r.files).map .files
    else if r.body.isNull then .ok .nothing
    else if r.isChunked then .ok (.piece (Request.bodyBytes r.body))
    else .ok (.whole (Request.bodyBytes r.body))

/-- The call for a request with its data. Without a body nothing is sent in chunks. -/
def Request.carrying (r : Request) (data : Cargo) : Call where
  method := r.method
  url := r.url
  headers :=
    if r.isChunked && !data.isBody then r.headers.remove "Transfer-Encoding" else r.headers
  connectTimeout := r.connectTimeout
  timeout := r.timeout
  verify := r.verify
  auth := r.auth
  streamed := r.isStreamed
  cargo := data

/-- Pass on pieces of a response, leaving out empty ones. The request keeps what it took before a
piece that fails. -/
def Request.takeAll (r : Request) : List (List UInt8) → Request × Option Disruption
  | [] => (r, none)
  | chunk :: rest =>
    if chunk.isEmpty then r.takeAll rest
    else match r.take chunk with
      | .ok r => r.takeAll rest
      | .error reason => (r, some reason)

/-- Take in an answer. The body of a successful one is passed on if the request wants that; any
other body is part of the response. -/
def Request.receive (r : Request) (chunkSize : Int) (a : Answer) :
    Request × Except Disruption Response :=
  let response (body : List UInt8) : Response := { status := a.status, headers := a.headers, body }
  if r.isStreamed && isSuccess a.status then
    let (r, failed) := r.takeAll (a.chunks chunkSize)
    match failed, a.breakdown with
    | some reason, _ => (r, .error reason)
    | none, some reason => (r, .error reason)
    | none, none => (r, .ok (response []))
  else match a.breakdown with
    | some reason => (r, .error reason)
    | none => (r, .ok (response a.body))

/-- The response of a request that was given up. -/
def aborted : Response :=
  { status := 0, error := some "Request aborted" }

/-- Complete a request with what came of it. A failure that is not recorded on the response is
raised. -/
def Request.conclude (r : Request) : Except Disruption Response → Request × Option Fault
  | .ok response => (r.complete response, none)
  | .error reason =>
    match reason.message?, reason.fault? with
    | some message, _ => (r.complete { status := 0, error := some message }, none)
    | none, fault => (r.complete aborted, fault)

/-! ## Queues -/

/-- How requests are executed. -/
structure QueueConfig where
  /-- How many requests run at once. -/
  maxParallel : Int := 5
  /-- The size of the pieces of what is sent and received. -/
  chunkSize : Int := 8192
deriving Repr, DecidableEq

def QueueConfig.fields : List (Config.Field QueueConfig) :=
  [.of "max_parallel" Config.readWhole fun c maxParallel => { c with maxParallel },
   .of "chunk_size" Config.readWhole fun c chunkSize => { c with chunkSize }]

/-- The configuration from fields; unknown ones are ignored. -/
def QueueConfig.ofFields (given : Entries Value) : Except Fault QueueConfig :=
  Config.orInvalid (Config.readRecord fields given {})

/-- A queue of requests over a session. -/
structure Queue where
  config : QueueConfig := {}
  session : Session := {}
  /-- All requests that were ever put in, by their ticket. -/
  requests : List Request := []
  /-- Tickets of requests that have not been taken out yet. -/
  pending : List Nat := []

namespace Queue

/-- Send a request that is being executed, and take in what comes back. -/
def exchange (q : Queue) (store : Files.Store) (r : Request) :
    Queue × Request × Except Disruption Response :=
  match cargo store q.config.chunkSize r with
  | .error reason => (q, r, .error reason)
  | .ok data =>
    let (session, reply) := q.session.send (r.carrying data)
    let q := { q with session }
    match reply with
    | .failure reason => (q, r, .error reason)
    | .answer a => (q, r.receive q.config.chunkSize a)

def execute (q : Queue) (store : Files.Store) (r : Request) : Queue × Request × Option Fault :=
  let (q, r, outcome) := q.exchange store r.markExecuting
  (q, r.conclude outcome)

/-! ## Waiting requests -/

/-- Put a request in; its ticket is the number of those before it. -/
def enqueue (q : Queue) (r : Request) : Queue × Nat :=
  ({ q with
      requests := q.requests ++ [r.markQueued]
      pending := q.pending ++ [q.requests.length] },
    q.requests.length)

def request? (q : Queue) (ticket : Nat) : Option Request :=
  q.requests[ticket]?

/-- A worker takes up a request. -/
def start (q : Queue) (ticket : Nat) : Queue :=
  { q with requests := q.requests.modify ticket Request.markExecuting }

/-- A worker brings a request to its end. -/
def finish (q : Queue) (store : Files.Store) (ticket : Nat) : Queue :=
  match q.request? ticket with
  | none => q
  | some r =>
    let (q, r, outcome) := q.exchange store r
    { q with requests := q.requests.set ticket (r.conclude outcome).1 }

/-- Take a request out. -/
def release (q : Queue) (ticket : Nat) : Queue :=
  { q with pending := q.pending.filter (· != ticket) }

/-- A request has been completed. -/
def isCompleted (q : Queue) (ticket : Nat) : Bool :=
  match q.request? ticket with
  | some r => r.state == .completed
  | none => false

/-- The number of requests that were put in and have not completed. -/
def countPending (q : Queue) : Nat :=
  (q.pending.filter fun ticket => !q.isCompleted ticket).length

def close (q : Queue) : Queue :=
  { q with session := q.session.close }

end Queue

end QueryClient.Http
