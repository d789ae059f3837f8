import QueryClient.Query.Bindings
import QueryClient.Query.Build
import QueryClient.Query.Compile
import QueryClient.Sql.Bind

/-!
# Asking a query

What is asked of a finished query: its text and values, its rows, or a number computed over them.
Each is planned on the query without changing it; the plan tells what must be sent, if anything.
-/

namespace QueryClient

inductive Terminal where
  /-- The SQL text. -/
  | toSql
  /-- The values. -/
  | getBindings
  /-- The SQL text with the values in it. -/
  | toRawSql
  /-- The rows. -/
  | get
  /-- The first row. -/
  | first
  /-- Whether there are rows. -/
  | hasRows
  /-- A function over the rows. -/
  | aggregate
  /-- A function over one column. -/
  | overColumn (function : String)
  /-- New rows to be written. -/
  | insert
deriving Repr, DecidableEq

/-- What must be done to answer. Values are worked out only once there is someone to send them
to. -/
inductive Plan where
  | answer (v : Value)
  | read (sql : String) (values : Except Fault (List Value))
  | write (sql : String) (values : Except Fault (List Value))

namespace Query

/-- The query with the given columns, unless it selects columns itself. -/
def withColumns (columns : Argument) (q : Query) : Except Fault Query :=
  match columns, q.outline.columns with
  | .value .null, _ | _, some _ => .ok q
  | _, none => do
    let columns ← columns.elements
    return q.updateOutline ({ · with columns := some columns })

/-- The query for a function over the rows. -/
def aggregated (function columns : Argument) (q : Query) : Except Fault Query := do
  let columns ← if columns.isTruthy then columns.elements else pure [.text "*"]
  return q.updateOutline fun o =>
    { o with
      columns := if q.unions.isEmpty then none else o.columns
      orders := []
      aggregate := some { function := function.text, columns } }

def reading (g : Grammar) (q : Query) : Except Fault Plan := do
  return .read (← g.query q) q.bindings

/-- The plan to write rows; without any there is nothing to do. -/
def inserting (g : Grammar) (rows : Value) (q : Query) : Except Fault Plan := do
  if !rows.isTruthy then return .answer .null
  let rows ← Grammar.insertedRows rows
  return .write (← g.insert q (.list rows)) (Grammar.insertedValues (.list rows))

end Query

namespace Terminal

def plan (g : Grammar) (q : Query) : Terminal → List Argument → Except Fault Plan
  | toSql, [] => do return .answer (.text (← g.query q))
  | getBindings, [] => do return .answer (.list (← q.bindings))
  | toRawSql, [] => do
    let sql ← g.query q
    return .answer (.text (← Sql.bind sql (.list (← q.bindings))))
  | get, [columns] => do (← q.withColumns columns).reading g
  | first, [] => do (← q.limit (.value (.int 1))).reading g
  | hasRows, [] => do return .read (← g.existence q) q.bindings
  | aggregate, [function, columns] => do (← q.aggregated function columns).reading g
  | overColumn function, [column] => do
    (← q.aggregated (.value (.text function)) (.value (.list [column.opaqueValue]))).reading g
  | insert, [rows] => q.inserting g rows.opaqueValue
  | _, _ => .error .wrongKind

/-- What is answered where nothing can be sent. -/
def answer (g : Grammar) (q : Query) (terminal : Terminal) (arguments : List Argument) :
    Except Fault Value := do
  match ← terminal.plan g q arguments with
  | .answer v => return v
  | _ => throw .noConnection

end Terminal

/-! ## Grammars on their own -/

/-- What a grammar writes when one of its functions is called by name. -/
def Grammar.call (g : Grammar) (name : String) (arguments : List Argument) : Except Fault String :=
  match name, arguments with
  | "wrap", [v] => g.column v.opaqueValue
  | "wrap", [v, prefixAlias] => g.name prefixAlias.isTruthy v.opaqueValue
  | "wrap_table", [v] => g.table v.opaqueValue
  | "wrap_value", [v] => Identifier.ofSegment v.opaqueValue
  | "columnize", [vs] => do g.columns (← vs.elements)
  | "parameter", [v] => .ok (parameter v.opaqueValue)
  | "parameterize", [vs] => do return parameters (← vs.elements)
  | "remove_leading_boolean", [.value (.text s)] => .ok (withoutLeadingBoolean s)
  | "compile_select", [.query (.own q)] => g.query q
  | "compile_exists", [.query (.own q)] => g.existence q
  | "compile_wheres", [.query (.own q)] => g.wheres (.query q)
  | "compile_insert", [.query (.own q), rows] => g.insert q rows.opaqueValue
  | _, _ => .error .wrongKind

end QueryClient
