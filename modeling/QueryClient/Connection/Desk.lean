import QueryClient.Connection.Terminal
import QueryClient.Query.Workspace
import QueryClient.Work

/-!
# Asking queries that are built side by side

A terminal is carried out on one query among others. What must be changed for it is changed on a
copy, which no query refers to. Then the text is written, and once there is a connection the values
are worked out and both are sent.
-/

namespace QueryClient

/-- The current query with all that stands in it put in, as a query of its own. Where it stands
inside itself its number, the next one, stands for it. -/
def Workspace.expansion (w : Workspace) : Query :=
  (w.snapshot w.query).resolve fun _ => .shared w.queries.length

/-- Queries, and the connection that they are asked on, if any. -/
structure Desk where
  workspace : Workspace := {}
  connection : Option Connection := none

namespace Desk

/-- The queries, with the one of a number as the current one. -/
def view (id : Nat) : Work Desk Workspace :=
  return { (← getThe Desk).workspace with current := id }

/-- Take a copy of a query, cut loose from all others; its number comes back. Only flat parts of it
will be changed, so what stands in it is put in. -/
def copy (id : Nat) : Work Desk Nat := do
  let w ← view id
  modifyThe Desk fun d => { d with workspace.queries := w.queries ++ [w.expansion] }
  return w.queries.length

/-- Change the flat parts of a query in place. -/
def change (id : Nat) (f : Outline → Outline) : Work Desk Unit :=
  modifyThe Desk fun d =>
    { d with workspace.queries := d.workspace.queries.modify id (·.updateOutline f) }

/-- Send a text with its values, which are worked out only when there is a connection. -/
def send (exchange : Connection → Value → Value → Connection × Except Fault Http.Request)
    (sql : String) (values : Except Fault (List Value)) : Work Desk Http.Request := do
  match (← getThe Desk).connection with
  | none => throw .noConnection
  | some c =>
    let (c, outcome) := exchange c (.text sql) (.list (← values))
    modifyThe Desk ({ · with connection := some c })
    outcome

/-! ## What is sent for a query -/

/-- Read with a query as it is. -/
def read (id : Nat) : Work Desk Http.Request := do
  let w ← view id
  send (·.select · ·) (← w.sql) w.bindings

/-- Read the given columns, unless the query selects columns itself. -/
def rows (id : Nat) (columns : Argument) : Work Desk Http.Request := do
  let w ← view id
  if columns.opaqueValue.isNull || w.query.outline.columns.isSome then read id
  else
    let id ← copy id
    let columns ← columns.elements
    change id ({ · with columns := some columns })
    read id

def firstRow (id : Nat) : Work Desk Http.Request := do
  let id ← copy id
  let united := !(← view id).query.unions.isEmpty
  change id fun o => if united then { o with unionLimit := some 1 } else { o with limit := some 1 }
  rows id (.value .null)

def existence (id : Nat) : Work Desk Http.Request := do
  let w ← view id
  send (·.select · ·) (← w.grammar.existence (w.snapshot w.query)) w.bindings

/-- Read a function over the rows. -/
def overRows (id : Nat) (function columns : Argument) : Work Desk Http.Request := do
  let id ← copy id
  let united := !(← view id).query.unions.isEmpty
  change id fun o => { o with columns := if united then o.columns else none, orders := [] }
  let columns ← (if columns.isTruthy then columns.elements else .ok [.text "*"] :
    Except Fault (List Value))
  change id ({ · with aggregate := some { function := function.text, columns } })
  rows id (.value .null)

/-- Write rows; without any there is nothing to do. -/
def write (id : Nat) (rows : Value) : Work Desk (Option Http.Request) := do
  if !rows.isTruthy then return none
  let w ← view id
  let rows ← Grammar.insertedRows rows
  let sql ← w.grammar.insert (w.snapshot w.query) (.list rows)
  return some (← send (·.write · ·) sql (Grammar.insertedValues (.list rows)))

/-! ## Terminals -/

/-- Carry out a terminal on the query of a number. -/
def ask (id : Nat) (terminal : Terminal) (arguments : List Argument) : Work Desk Terminal.Reply := do
  match terminal, arguments with
  | .toSql, [] => return .value (.text (← (← view id).sql))
  | .getBindings, [] => return .value (.list (← (← view id).bindings))
  | .toRawSql, [] =>
    let w ← view id
    let sql ← w.sql
    return .value (.text (← Sql.bind sql (.list (← w.bindings))))
  | .get, [columns] => terminal.reply (← rows id columns)
  | .first, [] => terminal.reply (← firstRow id)
  | .hasRows, [] => terminal.reply (← existence id)
  | .aggregate, [function, columns] => terminal.reply (← overRows id function columns)
  | .overColumn function, [column] =>
    let columns := [column.opaqueValue]
    terminal.reply (← overRows id (.value (.text function)) (.value (.list columns)))
  | .insert, [rows] =>
    match ← write id rows.opaqueValue with
    | some r => terminal.reply r
    | none => return .value .null
  | _, _ => throw .wrongKind

end Desk

end QueryClient
