import QueryClient.Http.Disruption
import QueryClient.Http.Response
import QueryClient.Http.ResultSink
import QueryClient.Http.Upload
import QueryClient.Value.Display

/-!
# Requests

A request is built, perhaps queued, executed, and completed. Completing it records the response and
then runs the hooks in the order in which they were added and the progress hook after them; a hook
that fails keeps no other from running.
-/

namespace QueryClient.Http

/-- The stages in the life of a request. -/
inductive RequestState where
  | built
  | queued
  | executing
  | completed
deriving Repr, DecidableEq

def RequestState.name : RequestState → String
  | built => "built"
  | queued => "queued"
  | executing => "executing"
  | completed => "completed"

/-- What is run when a request completes. -/
inductive Hook where
  /-- Leave a notice under a name. -/
  | notify (name : String)
  /-- A hook that fails. -/
  | failing (fault : Fault)
  /-- Close the result sink. -/
  | closeSink
  /-- Hand on the progress that the server reports. -/
  | report
deriving Repr, DecidableEq

/-- A hook that was run, with what it saw. -/
structure HookRun where
  hook : Hook
  /-- The stage of the request at that moment. -/
  state : RequestState
  /-- The response that had been recorded. -/
  response : Response
  /-- How it failed, if it did. -/
  failure : Option Fault := none
deriving Repr, DecidableEq

structure Request where
  method : String := "POST"
  url : String := ""
  headers : Entries Value := []
  /-- The statement, when it is sent as body. -/
  body : Value := .null
  /-- Files to send along, by the table they stand for. -/
  files : Entries String := []
  /-- User and password for basic authentication. -/
  auth : Option (Value × Value) := none
  timeout : Value := .int 20
  connectTimeout : Value := .int 5
  /-- Whether certificates are checked, or the certificates to trust. -/
  verify : Value := .bool true
  persistent : Bool := false
  verbose : Bool := false
  upload : Option Upload := none
  /-- The pieces received so far, when they are to be collected. -/
  download : Option (List (List UInt8)) := none
  sink : Option ResultSink := none
  /-- How much the collector or the sink takes, where there is a bound. -/
  limit : Option Limit := none
  hooks : List Hook := []
  progress : Option Hook := none
  /-- The statement that the request was made for. -/
  sql : Option String := none
  /-- The format that was asked for. -/
  format : Option String := none
  response : Option Response := none
  state : RequestState := .built
  /-- The request has been completed at least once. -/
  done : Bool := false
  /-- The hooks that were run, in order. -/
  runs : List HookRun := []

namespace Request

/-! ## Building -/

def header (r : Request) (name : String) (v : Value) : Request :=
  { r with headers := r.headers.put name v }

/-- A password, which may be missing. -/
def passwordOr (password : Value) : Value :=
  if password.isTruthy then password else .text ""

/-- Send the credentials as headers. -/
def authByHeaders (r : Request) (username password : Value) : Request :=
  (r.header "X-ClickHouse-User" username).header "X-ClickHouse-Key" (passwordOr password)

/-- Send the credentials by basic authentication. -/
def authByBasic (r : Request) (username password : Value) : Request :=
  { r with auth := some (username, passwordOr password) }

/-- Ask for a compressed answer, or no longer. -/
def httpCompression (r : Request) (flag : Bool) : Request :=
  if flag then r.header "Accept-Encoding" (.text "gzip")
  else { r with headers := r.headers.remove "Accept-Encoding" }

/-- Keep the connection open. -/
def setPersistent (r : Request) : Request :=
  { r with persistent := true }.header "Connection" (.text "keep-alive")

/-- Send files along. -/
def attachFiles (r : Request) (files : List (String × String)) : Request :=
  { r with files := r.files.putAll files }

def addHook (r : Request) (hook : Hook) : Request :=
  { r with hooks := r.hooks ++ [hook] }

/-- The body is sent in chunks. -/
def isChunked (r : Request) : Bool :=
  match r.headers.find? "Transfer-Encoding" with
  | some (.text s) => Text.lower s == "chunked"
  | _ => false

/-- The body of the response is passed on piece by piece. -/
def isStreamed (r : Request) : Bool :=
  r.download.isSome || r.sink.isSome

/-! ## Life -/

/-- The request waits in a queue. -/
def markQueued (r : Request) : Request :=
  { r with state := .queued }

def markExecuting (r : Request) : Request :=
  { r with state := .executing }

/-- Hand a piece of the response to the collector if there is one, else to the sink. -/
def deliver (r : Request) (chunk : List UInt8) : Request :=
  match r.download with
  | some chunks => { r with download := some (chunks ++ [chunk]) }
  | none => { r with sink := r.sink.map (·.append chunk) }

/-- Pass on a piece of the response, unless it is refused. -/
def take (r : Request) (chunk : List UInt8) : Except Disruption Request :=
  match r.limit with
  | none => .ok (r.deliver chunk)
  | some limit => limit.spend.map fun limit => { r.deliver chunk with limit := some limit }

/-- What a hook does with a request, and how it fails if it does. -/
def act (r : Request) : Hook → Request × Option Fault
  | .notify _ | .report => (r, none)
  | .failing fault => (r, some fault)
  | .closeSink =>
    match r.sink with
    | some sink => ({ r with sink := some sink.close }, none)
    | none => (r, some .lacksMember)

/-- Run a hook. What it fails with is noted, and goes no further. -/
def runHook (r : Request) (hook : Hook) : Request :=
  let (after, failure) := r.act hook
  { after with runs := after.runs ++ [⟨hook, r.state, r.response.getD default, failure⟩] }

/-- Record the response, run the hooks, and complete the request. -/
def complete (r : Request) (response : Response) : Request :=
  let r := { r with response := some response }
  let r := r.hooks.foldl runHook r
  let r := r.progress.toList.foldl runHook r
  { r with state := .completed, done := true }

end Request

end QueryClient.Http
