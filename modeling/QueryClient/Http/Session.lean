import QueryClient.Http.Request

/-!
# Sessions

A session carries requests to a server and brings back what comes. It is described by the replies
that are still to come and keeps a record of the requests that were sent. When no reply is left,
requests are answered with an empty body. The data of an upload are read by the session while it
sends them: a read that fails breaks off the request, and no reply comes.
-/

namespace QueryClient.Http

open Gzip (Content)

/-! ## What is sent -/

/-- The data that a session is handed with a request. -/
inductive Cargo where
  | nothing
  /-- One body. -/
  | whole (data : List UInt8)
  /-- A body that is to be sent as one piece of many. -/
  | piece (data : List UInt8)
  /-- An upload that is still to be read, in pieces of a size. -/
  | upload (u : Upload) (size : Int)
  /-- Open files, each under the name of a table and with its own name. -/
  | files (parts : List (String × String × Content))

def Cargo.isBody : Cargo → Bool
  | whole _ | piece _ | upload .. => true
  | nothing | files _ => false

/-- The data that went out with a request. -/
inductive Payload where
  | nothing
  /-- One body. -/
  | whole (data : List UInt8)
  /-- A body that was sent piece by piece. -/
  | streamed (pieces : List Content)
  /-- A body that was broken off after these pieces. -/
  | cutOff (pieces : List Content)
  /-- Files, each under the name of a table and with its own name. -/
  | files (parts : List (String × String × Content))
deriving Repr, DecidableEq

/-- Read the data of a request to send them: what goes out, and what fails, if anything does. -/
def Cargo.read : Cargo → Payload × Option Disruption
  | nothing => (.nothing, none)
  | whole data => (.whole data, none)
  | piece data => (.streamed [[.plain data]], none)
  | upload u size =>
    match u.contents size with
    | ⟨pieces, none⟩ => (.streamed pieces, none)
    | ⟨pieces, some reason⟩ => (.cutOff pieces, some reason)
  | files parts => (.files parts, none)

/-- What stands at the head of a request. -/
structure Heading where
  method : String
  url : String
  headers : Entries Value
  connectTimeout : Value
  timeout : Value
  verify : Value
  auth : Option (Value × Value)
  /-- The answer is to be passed on piece by piece. -/
  streamed : Bool

/-- A call on a session. -/
structure Call extends Heading where
  cargo : Cargo

/-- A request as it was sent. -/
structure Sent extends Heading where
  payload : Payload

/-- What a call sends. -/
def Call.sent (call : Call) : Sent :=
  { call.toHeading with payload := call.cargo.read.1 }

/-! ## What comes back -/

structure Answer where
  status : Int := 200
  headers : Entries String := []
  body : List UInt8 := []
  /-- The pieces in which the body arrives, when they are known. -/
  pieces : Option (List (List UInt8)) := none
  /-- What breaks off the transfer after these pieces, if anything does. -/
  breakdown : Option Disruption := none
deriving Repr, DecidableEq

/-- What comes back for a request. -/
inductive Reply where
  | answer (a : Answer)
  | failure (reason : Disruption)
deriving Repr, DecidableEq

/-- Cut data into pieces of a size. -/
def slices (size : Nat) (data : List UInt8) : List (List UInt8) :=
  if _h : size = 0 ∨ data = [] then []
  else data.take size :: slices size (data.drop size)
termination_by data.length
decreasing_by
  have : data.length ≠ 0 := by simpa using fun hd => _h (Or.inr hd)
  simp only [List.length_drop]
  omega

namespace Answer

/-- The body cut into pieces; a size that is not positive asks for one piece. -/
def chunks (a : Answer) (size : Int) : List (List UInt8) :=
  match a.pieces with
  | some pieces => pieces
  | none => if size ≤ 0 then slices a.body.length a.body else slices size.toNat a.body

end Answer

/-! ## Sessions -/

structure Session where
  /-- The replies still to come. -/
  replies : List Reply := []
  /-- The requests that were sent, the latest last. -/
  sent : List Sent := []
  closed : Bool := false

namespace Session

/-- Send a request and take the reply. It is sent as far as its data can be read; a reply is only
taken when all of them were. -/
def send (s : Session) (call : Call) : Session × Reply :=
  let s := { s with sent := s.sent ++ [call.sent] }
  match call.cargo.read.2, s.replies with
  | some reason, _ => (s, .failure reason)
  | none, [] => (s, .answer {})
  | none, reply :: rest => ({ s with replies := rest }, reply)

def close (s : Session) : Session :=
  { s with closed := true }

end Session

end QueryClient.Http
