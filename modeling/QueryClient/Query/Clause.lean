import QueryClient.Query.Resolve
import QueryClient.Query.Terminal

/-!
# Clauses as data

A sequence of building steps as data: each clause has a verb and operands, and operands may hold
clauses again, for callbacks and inner queries. Running the clauses on a query or on a join builds
it. What shared queries stand for matters only to clauses that ask for something.
-/

namespace QueryClient

/-! ## Verbs -/

/-- The ways to add a condition. -/
inductive Filter where
  | add
  | sql
  | columns
  | among
  | isNull
  | between
  | datePart (function : String)
  | nested
  | existence
deriving Repr, DecidableEq

/-- Parts of a query that can be set directly. -/
inductive Part where
  | table | columns | distinct | aggregate | joins | groups | havings | orders | limit | offset
  | unions | unionOrders | unionLimit | unionOffset
deriving Repr, DecidableEq

inductive Verb where
  | filter (filter : Filter)
  /-- A condition of a join. -/
  | on
  | select
  | addSelect
  | selectSql
  | distinct
  | fromTable
  | join
  | groupBy
  | having
  | havingSql
  | orderBy
  | orderBySql
  | limit
  | offset
  | forPage
  | union
  | setAggregate
  | setPart (part : Part)
  /-- Ask something of the query and go on. -/
  | inspect (terminal : Terminal)
  /-- Do nothing. -/
  | rest
  /-- Fail. -/
  | refuse (fault : Fault)
deriving Repr, DecidableEq

/-- What a clause can be applied to. -/
inductive Reach where
  | anything
  | queries
  | joins
deriving Repr, DecidableEq

mutual

inductive Operand where
  | value (v : Value)
  | entries (pairs : List (Value × Operand))
  | callback (clauses : List Clause)
  | query (clauses : List Clause)
  /-- A query of a workspace, by its number. -/
  | shared (id : Nat)
  /-- An operand that could not be made. -/
  | broken (fault : Fault)

/-- One building step. -/
structure Clause where
  verb : Verb
  operands : List Operand
  reach : Reach := .anything

end

instance : Inhabited Operand := ⟨.value .null⟩

instance : Inhabited Clause := ⟨{ verb := .rest, operands := [] }⟩

/-! ## Conditions -/

/-- Add a condition with the given arguments. -/
def Filter.apply (host : Host) (cs : List Condition) :
    Filter → List Argument → Outcome (List Condition)
  | add, [column, operator, value, boolean] =>
    Conditions.add host column operator value boolean.text cs
  | sql, [text, values, boolean] => .ofResult cs (Conditions.addSql text values boolean.text cs)
  | columns, [first, operator, second, boolean] =>
    .ofResult cs (Conditions.addColumns first operator second boolean.text cs)
  | among, [column, values, boolean, negated] =>
    .ofResult cs (Conditions.addAmong host column values boolean.text negated.isTruthy cs)
  | isNull, [column, boolean, negated] =>
    .done (cs ++ [.isNull boolean.text column.opaqueValue negated.isTruthy])
  | between, [column, values, boolean, negated] =>
    .ofResult cs (Conditions.addBetween column values boolean.text negated.isTruthy cs)
  | datePart function, [column, operator, value, boolean] =>
    .ofResult cs (Conditions.addDatePart function column operator value boolean.text cs)
  | nested, [callback, boolean] =>
    .ofResult cs (Conditions.addNested host callback boolean.text cs)
  | existence, [query, boolean, negated] =>
    .ofResult cs (Conditions.addExistence host query boolean.text negated.isTruthy cs)
  | _, _ => .failed cs .wrongKind

/-! ## Clauses with evaluated operands -/

/-- A whole number or nothing. -/
def boundOf (v : Value) : Except Fault (Option Int) :=
  match v with
  | .null => .ok none
  | _ => v.toWhole.map some

/-- Set a part of a query directly. Joins, conditions, orders and unions are no plain values; such a
part can only be emptied. -/
def Part.assign (v : Value) (q : Query) : Part → Except Fault Query
  | table => .ok (q.updateOutline ({ · with table := v }))
  | columns => do
    let columns ← if v.isNull then pure none else some <$> v.elements
    return q.updateOutline ({ · with columns })
  | distinct => .ok (q.updateOutline ({ · with distinct := v.isTruthy }))
  | aggregate => if v.isNull then .ok (q.setAggregate none) else .error .lacksMember
  | groups => do
    let groups ← if v.isTruthy then v.elements else pure []
    return q.updateOutline ({ · with groups })
  | limit => do
    let limit ← boundOf v
    return q.updateOutline ({ · with limit })
  | offset => do
    let offset ← boundOf v
    return q.updateOutline ({ · with offset })
  | unionLimit => do
    let unionLimit ← boundOf v
    return q.updateOutline ({ · with unionLimit })
  | unionOffset => do
    let unionOffset ← boundOf v
    return q.updateOutline ({ · with unionOffset })
  | joins => if v.isTruthy then .error .lacksMember else .ok { q with joins := [] }
  | havings => if v.isTruthy then .error .lacksMember else .ok { q with havings := [] }
  | unions => if v.isTruthy then .error .lacksMember else .ok { q with unions := [] }
  | orders =>
    if v.isTruthy then .error .lacksMember else .ok (q.updateOutline ({ · with orders := [] }))
  | unionOrders =>
    if v.isTruthy then .error .lacksMember
    else .ok (q.updateOutline ({ · with unionOrders := [] }))

def Verb.onQuery (g : Grammar) (find : Nat → Source) (q : Query) :
    Verb → List Argument → Outcome Query
  | filter kind, arguments => q.changeConditions fun host cs => kind.apply host cs arguments
  | select, columns => .done (q.select columns)
  | addSelect, columns => .done (q.addSelect columns)
  | selectSql, [sql] => .done (q.addSelect [.value (.raw sql.opaqueValue)])
  | distinct, [flag] => .done (q.distinct flag)
  | fromTable, [table] => .done (q.fromTable table)
  | join, [table, first, operator, second, kind, byValue] =>
    .ofResult q (q.join table first operator second kind byValue.isTruthy)
  | groupBy, columns => .done (q.groupBy columns)
  | having, [column, operator, value, boolean] =>
    .ofResult q (q.having column operator value boolean.text)
  | havingSql, [sql, values, boolean] => .ofResult q (q.havingSql sql values boolean.text)
  | orderBy, [column, direction] => .ofResult q (q.orderBy column direction)
  | orderBySql, [sql] => .done (q.orderBySql sql)
  | limit, [value] => .ofResult q (q.limit value)
  | offset, [value] => .ofResult q (q.offset value)
  | forPage, [page, perPage] => q.forPage page perPage
  | union, [query, all] => .ofResult q (q.union query all.isTruthy)
  | setAggregate, [function, columns] => .ofResult q do
    return q.setAggregate (some { function := function.text, columns := ← columns.elements })
  | setPart part, [v] => .ofResult q (part.assign v.opaqueValue q)
  | inspect terminal, arguments => .ofResult q do
    let _ ← terminal.answer g (q.resolve find) arguments
    return q
  | rest, [] => .done q
  | refuse fault, _ => .failed q fault
  | on, _ => .failed q .lacksMember
  | _, _ => .failed q .wrongKind

/-- Apply a verb to a join. Its table is there but cannot be set. -/
def Verb.onJoin (subqueries : Bool) (j : Join) : Verb → List Argument → Outcome Join
  | filter kind, arguments =>
    j.changeConditions subqueries fun host cs => kind.apply host cs arguments
  | on, [first, operator, second, boolean] => j.changeConditions subqueries fun host cs =>
    .ofResult cs (Conditions.addOn host first operator second boolean.text cs)
  | on, _ => .failed j .wrongKind
  | rest, [] => .done j
  | rest, _ => .failed j .wrongKind
  | refuse fault, _ => .failed j fault
  | fromTable, _ => .failed j .wrongKind
  | _, _ => .failed j .lacksMember

/-! ## Running -/

mutual

def Operand.argumentWith (g : Grammar) (find : Nat → Source) : Operand → Except Fault Argument
  | .value v => .ok (.value v)
  | .entries pairs => do return .entries (← argumentsOfEntries g find pairs)
  | .callback clauses => .ok (.callback (fun q => buildQuery g find clauses q)
      (fun subqueries j => buildJoin g find clauses subqueries j))
  | .query clauses => do return .query (.own (← (buildQuery g find clauses {}).result))
  | .shared id => .ok (.query (.shared id))
  | .broken fault => .error fault

def argumentsOfEntries (g : Grammar) (find : Nat → Source) :
    List (Value × Operand) → Except Fault (List (Value × Argument))
  | [] => .ok []
  | (key, operand) :: rest => do
    let argument ← operand.argumentWith g find
    return (key, argument) :: (← argumentsOfEntries g find rest)

def argumentsWith (g : Grammar) (find : Nat → Source) :
    List Operand → Except Fault (List Argument)
  | [] => .ok []
  | operand :: rest => do
    let argument ← operand.argumentWith g find
    return argument :: (← argumentsWith g find rest)

def Clause.onQuery (g : Grammar) (find : Nat → Source) : Clause → Query → Outcome Query
  | ⟨verb, operands, reach⟩, q =>
    if reach = .joins then .failed q .lacksMember
    else match argumentsWith g find operands with
      | .error fault => .failed q fault
      | .ok arguments => verb.onQuery g find q arguments

def Clause.onJoin (g : Grammar) (find : Nat → Source) : Clause → Bool → Join → Outcome Join
  | ⟨verb, operands, reach⟩, subqueries, j =>
    if reach = .queries then .failed j .lacksMember
    else match argumentsWith g find operands with
      | .error fault => .failed j fault
      | .ok arguments => verb.onJoin subqueries j arguments

/-- Run clauses on a query until one fails. -/
def buildQuery (g : Grammar) (find : Nat → Source) : List Clause → Query → Outcome Query
  | [], q => .done q
  | clause :: rest, q => (clause.onQuery g find q).andThen fun q => buildQuery g find rest q

/-- Run clauses on a join until one fails. -/
def buildJoin (g : Grammar) (find : Nat → Source) : List Clause → Bool → Join → Outcome Join
  | [], _, j => .done j
  | clause :: rest, subqueries, j =>
    (clause.onJoin g find subqueries j).andThen fun j => buildJoin g find rest subqueries j

end

/-- The argument where no query is shared. -/
def Operand.argument (g : Grammar) (operand : Operand) : Except Fault Argument :=
  operand.argumentWith g .shared

/-- The arguments where no query is shared. -/
def argumentsOf (g : Grammar) (operands : List Operand) : Except Fault (List Argument) :=
  argumentsWith g .shared operands

end QueryClient
