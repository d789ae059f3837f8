import QueryClient.Query.Filter
import QueryClient.Value.Whole

/-!
# Building queries

Every clause of a statement is one change of the query. A change that cannot be made leaves the
query as it was; only turning to a page is two changes, of which the first stays.
-/

namespace QueryClient

namespace Query

/-! ## Selection -/

/-- Columns with lists among them opened, one level deep. -/
def flattened (columns : List Argument) : List Value :=
  columns.flatMap fun column =>
    match column.opaqueValue with
    | .list items | .tuple items => items
    | other => [other]

/-- Another outline with the rest unchanged. -/
def updateOutline (q : Query) (change : Outline → Outline) : Query :=
  { q with outline := change q.outline }

/-- Select the given columns, or all when there are none. -/
def select (columns : List Argument) (q : Query) : Query :=
  let columns := flattened columns
  q.updateOutline ({ · with columns := some (if columns.isEmpty then [.text "*"] else columns) })

/-- Select the given columns as well. -/
def addSelect (columns : List Argument) (q : Query) : Query :=
  q.updateOutline fun o => { o with columns := some (o.columns.getD [] ++ flattened columns) }

/-- Select distinct rows. -/
def distinct (flag : Argument) (q : Query) : Query :=
  q.updateOutline ({ · with distinct := flag.isTruthy })

def fromTable (table : Argument) (q : Query) : Query :=
  q.updateOutline ({ · with table := table.opaqueValue })

/-- Group by the given columns as well. -/
def groupBy (columns : List Argument) (q : Query) : Query :=
  q.updateOutline fun o => { o with groups := o.groups ++ flattened columns }

/-- Put a function in the place of the columns. -/
def setAggregate (aggregate : Option Aggregate) (q : Query) : Query :=
  q.updateOutline ({ · with aggregate })

/-! ## Conditions -/

/-- The owner of the conditions of a query. -/
def host (q : Query) : Host :=
  .query q.outline.table

def changeConditions (change : Host → List Condition → Outcome (List Condition)) (q : Query) :
    Outcome Query :=
  (change q.host q.conditions).within fun conditions => { q with conditions }

/-- Add a comparison on groups. -/
def having (column operator value : Argument) (boolean : String) (q : Query) :
    Except Fault Query := do
  let (operator, value) ← prepared operator value
  let added := .compare boolean column.opaqueValue operator value.opaqueValue
  return { q with havings := q.havings ++ [added] }

/-- Add raw SQL on groups. -/
def havingSql (sql values : Argument) (boolean : String) (q : Query) : Except Fault Query := do
  return { q with havings := q.havings ++ [.sql boolean sql.text (← values.rawValues)] }

end Query

/-! ## Joins -/

namespace Join

/-- The owner of the conditions of a join. -/
def host (j : Join) (subqueries : Bool) : Host :=
  .join j.kind j.table subqueries

def changeConditions (subqueries : Bool)
    (change : Host → List Condition → Outcome (List Condition)) (j : Join) : Outcome Join :=
  (change (j.host subqueries) j.conditions).within fun conditions => { j with conditions }

def shown (j : Join) : String :=
  "JoinClause(type=" ++ Text.quoted j.kind ++ ", table=" ++ j.table.shown ++ ", conditions="
    ++ toString j.conditions.length ++ ")"

end Join

namespace Query

/-- The conditions of a new join, by its first argument: none, those that a callback adds, a
comparison with a value, or a comparison of two columns. -/
def joinConditions (first operator second : Argument) (byValue : Bool) (j : Join) :
    Outcome Join :=
  match first with
  | .callback _ onJoin => onJoin true j
  | .value .null => .done j
  | _ => j.changeConditions true fun host cs =>
    if byValue then Conditions.add host first operator second "and" cs
    else .ofResult cs (Conditions.addOn host first operator second "and" cs)

def join (table first operator second kind : Argument) (byValue : Bool) (q : Query) :
    Except Fault Query := do
  let fresh : Join := { kind := kind.text, table := table.opaqueValue }
  let join ← (joinConditions first operator second byValue fresh).result
  return { q with joins := q.joins ++ [join] }

/-! ## Order and bounds -/

/-- Add an order, to the whole union when there is one. -/
def addOrder (order : Order) (q : Query) : Query :=
  q.updateOutline fun o =>
    if q.unions.isEmpty then { o with orders := o.orders ++ [order] }
    else { o with unionOrders := o.unionOrders ++ [order] }

/-- A small Latin letter for a capital one. -/
def smallByte (b : UInt8) : UInt8 :=
  if 65 ≤ b && b ≤ 90 then b + 32 else b

def directionOf : Argument → Except Fault Direction
  | .value (.text s) =>
    let small := Text.lower s
    if small == "asc" then .ok .ascending
    else if small == "desc" then .ok .descending
    else .error (.unknownDirection (Text.quoted small))
  | .value (.bytes data) => .error (.unknownDirection (Value.bytes (data.map smallByte)).shown)
  | .value (.bytearray data) =>
    .error (.unknownDirection (Value.bytearray (data.map smallByte)).shown)
  | _ => .error .lacksMember

def orderBy (column direction : Argument) (q : Query) : Except Fault Query := do
  let direction ← directionOf direction
  return q.addOrder (.by column.opaqueValue direction)

/-- Order by raw SQL. -/
def orderBySql (sql : Argument) (q : Query) : Query :=
  q.addOrder (.sql sql.opaqueValue)

/-- A whole number that is not negative. -/
def countOf (name : String) (value : Argument) : Except Fault Int := do
  let n ← value.opaqueValue.toWhole
  if n < 0 then throw (.negativeCount name n) else return n

/-- Bound the number of rows, of the whole union when there is one. -/
def limit (value : Argument) (q : Query) : Except Fault Query := do
  let n ← countOf "limit" value
  return q.updateOutline fun o =>
    if q.unions.isEmpty then { o with limit := some n } else { o with unionLimit := some n }

/-- Skip rows, of the whole union when there is one. -/
def offset (value : Argument) (q : Query) : Except Fault Query := do
  let n ← countOf "offset" value
  return q.updateOutline fun o =>
    if q.unions.isEmpty then { o with offset := some n } else { o with unionOffset := some n }

/-- Turn to a page: first the rows in front of it are skipped, then their number is bounded. -/
def forPage (page perPage : Argument) (q : Query) : Outcome Query :=
  let skipped := Outcome.ofResult q do
    offset (.value (← page.opaqueValue.rowsBefore perPage.opaqueValue)) q
  skipped.andThen fun q => .ofResult q (limit perPage q)

/-! ## Unions -/

/-- Unite with the rows of another query. -/
def union (query : Argument) (all : Bool) (q : Query) : Except Fault Query := do
  let source ← q.host.source query
  return { q with unions := q.unions ++ [{ source, all }] }

end Query

end QueryClient
