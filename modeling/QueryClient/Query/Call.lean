import QueryClient.Parameter
import QueryClient.Query.Clause

/-!
# Clauses by name

The building steps as callers name them, each with its parameters and their defaults. A call finds
its step by name and puts its arguments into the order of the parameters.
-/

namespace QueryClient

/-! ## Signatures -/

/-- A step that can be called by name. -/
structure Signature where
  name : String
  verb : Verb
  parameters : List Parameter := []
  /-- Parameters that only condition lists let callers set. -/
  inner : List Parameter := []
  /-- Operands that the name settles. -/
  settled : List Value := []
  reach : Reach := .queries
  /-- Any number of arguments is taken. -/
  openEnded : Bool := false

namespace Signature

open Parameter (required optional)

/-- The parameter for the word in front of a condition. -/
def booleanParameter : Parameter :=
  optional "boolean" (.text "and")

def negatedParameter : Parameter :=
  optional "negated" (.bool false)

def comparison (first second : String) : List Parameter :=
  [required first, optional "operator" .missing, optional second .missing]

/-- The two steps of a condition that takes the word in front of it as its last parameter: one
where it can be given and one that begins with `or`. -/
def pair (name : String) (filter : Filter) (parameters : List Parameter) (reach : Reach)
    (alternative : Reach) : List Signature :=
  [{ name, verb := .filter filter, parameters := parameters ++ [booleanParameter], reach },
   { name := "or_" ++ name, verb := .filter filter, parameters, settled := [.text "or"],
     reach := alternative }]

/-- The four steps of a condition that can be negated. -/
def negatable (name negatedName : String) (filter : Filter) (parameters : List Parameter)
    (reach : Reach) : List Signature :=
  [{ name, verb := .filter filter, parameters := parameters ++ [booleanParameter],
     inner := [negatedParameter], reach },
   { name := "or_" ++ name, verb := .filter filter, parameters,
     settled := [.text "or", .bool false] },
   { name := negatedName, verb := .filter filter, parameters := parameters ++ [booleanParameter],
     settled := [.bool true], reach },
   { name := "or_" ++ negatedName, verb := .filter filter, parameters,
     settled := [.text "or", .bool true] }]

def datePart (name function : String) : Signature :=
  { name, verb := .filter (.datePart function),
    parameters := comparison "column" "value" ++ [booleanParameter] }

/-- Steps that add conditions. -/
def filters : List Signature :=
  pair "where" .add (comparison "column" "value") .anything .anything
    ++ pair "where_raw" .sql [required "sql", optional "bindings" .null] .anything .queries
    ++ pair "where_column" .columns (comparison "first" "second") .queries .queries
    ++ negatable "where_in" "where_not_in" .among [required "column", required "values"] .anything
    ++ negatable "where_null" "where_not_null" .isNull [required "column"] .anything
    ++ negatable "where_between" "where_not_between" .between
      [required "column", required "values"] .queries
    ++ [datePart "where_date" "toDate", datePart "where_month" "toMonth",
      datePart "where_day" "toDayOfMonth", datePart "where_year" "toYear",
      datePart "where_time" "toTime",
      { name := "where_nested", verb := .filter .nested,
        parameters := [required "callback", booleanParameter] }]
    ++ negatable "where_exists" "where_not_exists" .existence [required "query"] .queries

/-- Steps that add conditions to joins only. -/
def joinFilters : List Signature :=
  [{ name := "on", verb := .on, parameters := comparison "first" "second" ++ [booleanParameter],
     reach := .joins },
   { name := "or_on", verb := .on, parameters := comparison "first" "second",
     settled := [.text "or"], reach := .joins },
   { name := "bindings", verb := .rest, reach := .joins },
   { name := "new_nested", verb := .rest, reach := .joins }]

def joinOf (name kind : String) : Signature :=
  { name, verb := .join,
    parameters := [required "table", optional "first" .null, optional "operator" .missing,
      optional "second" .missing],
    settled := [.text kind, .bool false] }

/-- Steps that set the parts of a query. -/
def clauses : List Signature :=
  [{ name := "select", verb := .select, openEnded := true },
   { name := "add_select", verb := .addSelect, openEnded := true },
   { name := "select_raw", verb := .selectSql, parameters := [required "expression"] },
   { name := "distinct", verb := .distinct, parameters := [optional "value" (.bool true)] },
   { name := "from_", verb := .fromTable, parameters := [required "table"] },
   { name := "table", verb := .fromTable, parameters := [required "table"], reach := .anything },
   { name := "join", verb := .join,
     parameters := [required "table", optional "first" .null, optional "operator" .missing,
       optional "second" .missing, optional "type" (.text "inner"),
       optional "where" (.bool false)] },
   { name := "join_where", verb := .join,
     parameters := [required "table", required "first", required "operator", required "second",
       optional "type" (.text "inner")],
     settled := [.bool true] },
   joinOf "inner_join" "inner", joinOf "left_join" "left", joinOf "right_join" "right",
   joinOf "full_join" "full", joinOf "cross_join" "cross",
   { name := "group_by", verb := .groupBy, openEnded := true },
   { name := "having", verb := .having,
     parameters := comparison "column" "value" ++ [booleanParameter] },
   { name := "or_having", verb := .having, parameters := comparison "column" "value",
     settled := [.text "or"] },
   { name := "having_raw", verb := .havingSql,
     parameters := [required "sql", optional "bindings" .null, booleanParameter] },
   { name := "or_having_raw", verb := .havingSql,
     parameters := [required "sql", optional "bindings" .null], settled := [.text "or"] },
   { name := "order_by", verb := .orderBy,
     parameters := [required "column", optional "direction" (.text "asc")] },
   { name := "order_by_desc", verb := .orderBy, parameters := [required "column"],
     settled := [.text "desc"] },
   { name := "order_by_raw", verb := .orderBySql, parameters := [required "sql"] },
   { name := "latest", verb := .orderBy,
     parameters := [optional "column" (.text "created_at")], settled := [.text "desc"] },
   { name := "oldest", verb := .orderBy,
     parameters := [optional "column" (.text "created_at")], settled := [.text "asc"] },
   { name := "limit", verb := .limit, parameters := [required "value"] },
   { name := "take", verb := .limit, parameters := [required "value"] },
   { name := "offset", verb := .offset, parameters := [required "value"] },
   { name := "skip", verb := .offset, parameters := [required "value"] },
   { name := "for_page", verb := .forPage,
     parameters := [required "page", optional "per_page" (.int 15)] },
   { name := "union", verb := .union,
     parameters := [required "query", optional "all" (.bool false)] },
   { name := "union_all", verb := .union, parameters := [required "query"],
     settled := [.bool true] },
   { name := "@aggregate", verb := .setAggregate,
     parameters := [required "function", optional "columns" (.list [.text "*"])] }]

/-- Steps that ask something of a query. -/
def terminals : List Signature :=
  [{ name := "to_sql", verb := .inspect .toSql },
   { name := "get_bindings", verb := .inspect .getBindings },
   { name := "to_raw_sql", verb := .inspect .toRawSql },
   { name := "get", verb := .inspect .get, parameters := [optional "columns" .null] },
   { name := "first", verb := .inspect .first },
   { name := "exists", verb := .inspect .hasRows },
   { name := "aggregate", verb := .inspect .aggregate,
     parameters := [required "function", optional "columns" .null] },
   { name := "count", verb := .inspect (.overColumn "count"),
     parameters := [optional "column" (.text "*")] },
   { name := "min", verb := .inspect (.overColumn "min"), parameters := [required "column"] },
   { name := "max", verb := .inspect (.overColumn "max"), parameters := [required "column"] },
   { name := "sum", verb := .inspect (.overColumn "sum"), parameters := [required "column"] },
   { name := "avg", verb := .inspect (.overColumn "avg"), parameters := [required "column"] },
   { name := "insert", verb := .inspect .insert, parameters := [required "values"] },
   { name := "clone", verb := .rest },
   { name := "new_query", verb := .rest },
   { name := "for_nested_where", verb := .rest }]

/-- All steps. -/
def all : List Signature :=
  filters ++ joinFilters ++ clauses ++ terminals

/-- Names of things that are there but cannot be called. -/
def uncallable : List (String × Reach) :=
  [("wheres", .anything), ("model", .queries), ("connection", .queries), ("grammar", .queries),
   ("type", .joins), ("query_factory", .joins)]

end Signature

/-! ## Calls -/

/-- A call of a step by name. -/
structure Call where
  name : String
  arguments : List Operand
  keywords : List (String × Operand) := []
deriving Inhabited

/-- The operands of a call of a step; none when it cannot be called like that. -/
def Signature.operands? (s : Signature) (withInner : Bool) (call : Call) :
    Option (List Operand) := do
  if s.openEnded then
    guard call.keywords.isEmpty
    return call.arguments
  let parameters := if withInner then s.parameters ++ s.inner else s.parameters
  let operands ← Parameter.place? .value parameters call.keywords call.arguments
  let inner := if withInner then [] else s.inner.filterMap (·.default)
  return operands ++ (inner ++ s.settled).map .value

/-- A clause that fails. -/
def Clause.refusing (fault : Fault) (reach : Reach := .anything) : Clause :=
  { verb := .refuse fault, operands := [], reach }

def Signature.clause (s : Signature) (withInner : Bool) (call : Call) : Clause :=
  match s.operands? withInner call with
  | some operands => { verb := s.verb, operands, reach := s.reach }
  | none => .refusing .wrongKind s.reach

/-- The part of a query that a name stands for. -/
def Part.ofName? : String → Option Part
  | "from_" => some .table
  | "columns" => some .columns
  | "distinct" => some .distinct
  | "aggregate" => some .aggregate
  | "joins" => some .joins
  | "groups" => some .groups
  | "havings" => some .havings
  | "orders" => some .orders
  | "limit" => some .limit
  | "offset" => some .offset
  | "unions" => some .unions
  | "union_orders" => some .unionOrders
  | "union_limit" => some .unionLimit
  | "union_offset" => some .unionOffset
  | _ => none

/-- The clause of a call on a query or a join. -/
def Call.clause (call : Call) : Clause :=
  match Signature.all.find? (·.name == call.name) with
  | some signature => signature.clause false call
  | none =>
    match call.name, call.arguments with
    | "@model", [.value (.text field), v] =>
      match Part.ofName? field with
      | some part => { verb := .setPart part, operands := [v], reach := .queries }
      | none => { verb := .rest, operands := [], reach := .queries }
    | name, _ =>
      match Signature.uncallable.lookup name with
      | some reach => .refusing .wrongKind reach
      | none => .refusing .lacksMember

/-- The filter of a call on a list of conditions, with its operands. -/
def Call.filter (call : Call) : Except Fault (Filter × List Operand) :=
  match Signature.filters.find? (·.name == call.name) with
  | none => .error (if call.name == "nodes" then .wrongKind else .lacksMember)
  | some signature =>
    match signature.verb, signature.operands? true call with
    | .filter filter, some operands => .ok (filter, operands)
    | _, _ => .error .wrongKind

end QueryClient
