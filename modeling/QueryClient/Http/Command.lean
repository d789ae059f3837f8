import QueryClient.Http.Request
import QueryClient.Parameter

/-!
# Calls on requests

What can be done with a request while it is built and completed, as callers name it.
-/

namespace QueryClient.Http.Request

open Parameter (required optional nth)

/-- A step on a request with the values of its parameters: the request after it, and what it
answers. -/
abbrev Step := Request → List Value → Request × CallAnswer

/-- A step that changes the request and answers with it. -/
def chained (change : Request → List Value → Request) : Step :=
  fun r vs => (change r vs, .itself)

/-- A step that changes the request and answers nothing. -/
def quiet (change : Request → List Value → Request) : Step :=
  fun r vs => (change r vs, .value .null)

def statusOf : Value → Int
  | .int n => n
  | _ => 0

def bodyBytes : Value → List UInt8
  | .bytes data | .bytearray data => data
  | v => Text.encode v.display

/-- The parameters and the step of a call by its name. -/
def step? : String → Option (List Parameter × Step)
  | "get" => some ([], chained fun r _ => { r with method := "GET" })
  | "post" => some ([], chained fun r _ => { r with method := "POST" })
  | "set_url" => some ([required "url"], chained fun r vs => { r with url := (nth vs 0).display })
  | "header" => some ([required "name", required "value"], chained fun r vs =>
    r.header (nth vs 0).display (nth vs 1))
  | "auth_by_headers" => some ([required "username", required "password"], chained fun r vs =>
    r.authByHeaders (nth vs 0) (nth vs 1))
  | "auth_by_basic_auth" => some ([required "username", required "password"], chained fun r vs =>
    r.authByBasic (nth vs 0) (nth vs 1))
  | "http_compression" => some ([optional "flag" (.bool true)], chained fun r vs =>
    r.httpCompression (nth vs 0).isTruthy)
  | "set_persistent" => some ([], chained fun r _ => r.setPersistent)
  | "set_ssl_ca" => some ([required "ca_path"], chained fun r vs => { r with verify := nth vs 0 })
  | "set_timeout" => some ([required "seconds"], chained fun r vs =>
    { r with timeout := nth vs 0 })
  | "set_connect_timeout" => some ([required "seconds"], chained fun r vs =>
    { r with connectTimeout := nth vs 0 })
  | "set_body" => some ([required "body"], chained fun r vs => { r with body := nth vs 0 })
  | "attach_files" => some ([required "files"], chained fun r vs =>
    match nth vs 0 with
    | .dict entries => r.attachFiles (entries.map fun (k, v) => (k.display, v.display))
    | _ => r)
  | "set_result_sink" => some ([required "sink"], chained fun r vs =>
    { r with sink := if (nth vs 0).isNull then none else some {} })
  | "is_chunked" => some ([], fun r _ => (r, .value (.bool r.isChunked)))
  | "mark_queued" => some ([], quiet fun r _ => r.markQueued)
  | "mark_executing" => some ([], quiet fun r _ => r.markExecuting)
  | "wait" => some ([], fun r _ => (r, .value (.bool r.done)))
  | "hook" => some ([required "name"], quiet fun r vs =>
    r.addHook (.notify (nth vs 0).display))
  | "failing_hook" => some ([], quiet fun r _ => r.addHook (.failing .unusable))
  | "progress" => some ([required "name"], quiet fun r vs =>
    { r with progress := some (.notify (nth vs 0).display) })
  | "failing_progress" =>
    some ([], quiet fun r _ => { r with progress := some (.failing .unusable) })
  | "complete" => some ([required "status", required "body"], quiet fun r vs =>
    r.complete { status := statusOf (nth vs 0), body := bodyBytes (nth vs 1) })
  | _ => none

def call (r : Request) (name : String) (placed : List Value) (named : List (String × Value)) :
    Except Fault (Request × CallAnswer) :=
  match step? name with
  | none => .error .lacksMember
  | some (ps, step) =>
    match Parameter.place? id ps named placed with
    | some vs => .ok (step r vs)
    | none => .error .wrongKind

end QueryClient.Http.Request
