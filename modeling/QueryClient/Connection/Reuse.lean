import QueryClient.Connection.Execution
import QueryClient.Work

/-!
# Selecting with a statement of the caller

A caller can hold on to a statement and select with it again. With values a new statement is made
from it. Without values the request is made from the statement itself, and the format of a result
file is set on it.
-/

namespace QueryClient.Connection

open Files (ExternalTable ResultFile)
open Http (Request)

/-- The request that reads with the statement itself. The format of a result file is set and the
text is worked out before anything can fail. -/
def readHeld (c : Connection) (tables : List ExternalTable) (file : Option ResultFile) :
    Work Sql.Statement (Connection × Request) := do
  let s ← getThe Sql.Statement
  set (statementFor s file).settled
  let (c, r, _) ← c.readRequest s tables file
  return (c, r)

/-- Another statement, with values put in and the format of this one, which is worked out for it. -/
def fillHeld (bindings : Value) : Work Sql.Statement Sql.Statement := do
  let s ← getThe Sql.Statement
  let filled ← Sql.Statement.ofText (← Sql.bind s.text bindings)
  set s.settled
  return match s.format with
    | some format => if format.isEmpty then filled else filled.setFormat (some format)
    | none => filled

/-- The request that a select with a held statement makes. -/
def prepareHeld (c : Connection) (bindings : Value) (tables : List ExternalTable)
    (file : Option ResultFile) : Work Sql.Statement (Connection × Request) := do
  if !bindings.isTruthy then c.readHeld tables file
  else
    let filled ← fillHeld bindings
    (perform (c.readHeld tables file) filled).1

/-- Read with a held statement. -/
def selectHeld (c : Connection) (s : Sql.Statement) (bindings : Value)
    (tables : List ExternalTable := []) (file : Option ResultFile := none) :
    Sql.Statement × Connection × Except Fault Request :=
  let (made, s) := perform (c.prepareHeld bindings tables file) s
  (s, c.executeMade made)

/-- Read with what a caller gives: a statement of the caller, or anything else. -/
def selectGiven (c : Connection) (sql bindings : Value) (tables : List ExternalTable)
    (file : Option ResultFile) : Connection × Except Fault Request :=
  match sql with
  | .statement s => (c.selectHeld s bindings tables file).2
  | _ => c.select sql bindings tables file

/-- Put a held statement to read with into the queue. -/
def selectHeldLater (c : Connection) (s : Sql.Statement) (bindings : Value)
    (tables : List ExternalTable := []) (file : Option ResultFile := none) :
    Sql.Statement × Connection × Except Fault Nat :=
  match perform (c.prepareHeld bindings tables file) s with
  | (.error fault, s) => (s, c, .error fault)
  | (.ok (c, r), s) =>
    let (queue, ticket) := c.queue.enqueue r
    (s, { c with queue }.runPending, .ok ticket)

/-- Put what a caller gives to read with into the queue. -/
def selectGivenLater (c : Connection) (sql bindings : Value) (tables : List ExternalTable)
    (file : Option ResultFile) : Connection × Except Fault Nat :=
  match sql with
  | .statement s => (c.selectHeldLater s bindings tables file).2
  | _ => c.selectLater sql bindings tables file

end QueryClient.Connection
