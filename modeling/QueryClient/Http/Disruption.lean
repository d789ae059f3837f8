import QueryClient.Fault

/-!
# Disruptions

What keeps a request from being answered. Failures of the transfer and of the local system are
recorded with the request; any other failure goes on to the caller.
-/

namespace QueryClient.Http

/-- What keeps a request from being answered. -/
inductive Disruption where
  /-- The transfer failed. -/
  | transfer (message : String)
  /-- The local system failed. -/
  | system (message : String)
  /-- Something else failed. -/
  | foreign (fault : Fault)
deriving Repr, DecidableEq

/-- The message that is recorded with the request; a failure that goes on has none. -/
def Disruption.message? : Disruption → Option String
  | transfer message | system message => some message
  | foreign _ => none

/-- The failure that goes on to the caller. -/
def Disruption.fault? : Disruption → Option Fault
  | foreign fault => some fault
  | _ => none

/-- How much is taken of a body, by a disk that fills up or a caller that fails. -/
structure Limit where
  /-- How many more pieces are taken. -/
  room : Nat
  /-- What comes of the piece after them. -/
  reason : Disruption
deriving Repr, DecidableEq

/-- Take one more piece. -/
def Limit.spend (l : Limit) : Except Disruption Limit :=
  match l.room with
  | 0 => .error l.reason
  | room + 1 => .ok { l with room }

end QueryClient.Http
