import QueryClient.Connection.Basic
import QueryClient.Files.ExternalTable
import QueryClient.Files.ResultFile
import QueryClient.Sql.Bind

/-!
# Requests for statements

A statement travels either as the body of its request or as a parameter of the address: as a
parameter when the body holds data of an upload or files of external tables. Reading is sent with
the level of read-only access that allows settings to be changed, writing with the one that allows
everything.
-/

namespace QueryClient.Connection

open Files (ExternalTable ResultFile)
open Http (Request ResultSink)

/-- The own parameters of a request, with the credentials among them. -/
def ownParameters (c : Connection) (parameters : List (String × Value)) : Entries Value :=
  (Entries.putAll [] parameters).putAll c.authParameters

/-- A request for a statement: in its address, or as its body. -/
def statementRequest (c : Connection) (s : Sql.Statement) (parameters : List (String × Value))
    (inAddress : Bool) (excluded : List String) : Except Fault Request := do
  let own := c.ownParameters parameters
  let own := if inAddress then own.put "query" (.text s.toSql) else own
  return { c.newRequest with
    sql := some s.toSql
    format := s.format
    url := ← c.url own excluded
    body := if inAddress then .null else .text s.toSql }

/-- A request that writes, with the statement as body. -/
def writeRequest (c : Connection) (s : Sql.Statement) : Except Fault Request :=
  c.statementRequest s [("readonly", .int 0)] false []

/-- A request for an upload; its body is left for the data. -/
def uploadRequest (c : Connection) (s : Sql.Statement) : Except Fault Request := do
  let own := c.ownParameters [("readonly", .int 0), ("query", .text s.toSql)]
  return { c.newRequest with
    sql := some s.toSql
    format := s.format
    url := ← c.url own [] }

/-- The statement that is sent with a result file: in the format of the file. -/
def statementFor (s : Sql.Statement) : Option ResultFile → Sql.Statement
  | some file => s.setFormat (some file.format)
  | none => s

/-- Open a result file: it is emptied, and its sink is closed when the request completes. -/
def openSink (c : Connection) (r : Request) : Option ResultFile →
    Except Fault (Connection × Request)
  | none => .ok (c, r)
  | some file =>
    match c.store.writablePlace file.file with
    | .error _ => .error .fileFailure
    | .ok place =>
      let (store, number) := c.store.openEmpty place
      let sink := { ResultSink.begin place file.gzip c.deflater with number }
      .ok ({ c with store }, { r with sink := some sink }.addHook .closeSink)

/-- A request that reads, perhaps with external tables and into a file. The statement comes back as
it stands afterwards: in the format that it was sent in. -/
def readRequest (c : Connection) (s : Sql.Statement) (tables : List ExternalTable)
    (file : Option ResultFile) : Except Fault (Connection × Request × Sql.Statement) := do
  let s := statementFor s file
  let excluded := if file.isSome then ["extremes"] else []
  let r ← c.statementRequest s (("readonly", .int 2) :: ExternalTable.parameters tables)
    (!tables.isEmpty) excluded
  let (c, r) ← c.openSink (r.attachFiles (ExternalTable.files tables)) file
  return (c, { r with progress := c.listener.map fun _ => .report }, s.settled)

/-! ## Values in statements -/

/-- A statement with values put in. A prepared statement stays one and keeps its format. -/
def bound (sql bindings : Value) : Except Fault Value :=
  if !bindings.isTruthy then .ok sql
  else match sql with
    | .statement s => do
      let filled ← Sql.Statement.ofText (← Sql.bind s.text bindings)
      return .statement (match s.format with
        | some format => if format.isEmpty then filled else filled.setFormat (some format)
        | none => filled)
    | .text s => do return .text (← Sql.bind s bindings)
    | _ => .error .wrongKind

/-- The statement of a value: itself if it is one. -/
def asStatement : Value → Except Fault Sql.Statement
  | .statement s => .ok s
  | v => v.toStatement

/-- The statement to read with; one that is not prepared is asked for in JSON. -/
def readStatement (sql bindings : Value) : Except Fault Sql.Statement := do
  match ← bound sql bindings with
  | .statement s => return s
  | v => return (← v.toStatement).setFormat (some "JSON")

def writeStatement (sql bindings : Value) : Except Fault Sql.Statement := do
  asStatement (← bound sql bindings)

/-- The statement of a transfer: its text as it would be sent. -/
def streamStatement (sql bindings : Value) : Except Fault Sql.Statement := do
  (← bound sql bindings).toStatement

end QueryClient.Connection
