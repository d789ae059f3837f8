import QueryClient.Query.Basic
import QueryClient.Query.Outcome
import QueryClient.Text.Case
import QueryClient.Value.Display

/-!
# Adding conditions

Conditions are added to a list that belongs to a query, to a join, or to nobody. What is compared
may be a value, an inner query, or a callback that fills one in; a callback alone stands for a
group in parentheses.
-/

namespace QueryClient

/-! ## Arguments -/

/-- What a caller hands over. -/
inductive Argument where
  | value (v : Value)
  /-- A dictionary with the conditions that its keys must meet. -/
  | entries (pairs : List (Value × Argument))
  /-- A function that changes a query or a join; in a join, the flag tells whether inner queries
  can be made. -/
  | callback (onQuery : Query → Outcome Query) (onJoin : Bool → Join → Outcome Join)
  | query (source : Source)

mutual

/-- The argument where only a value is of use. -/
def Argument.opaqueValue : Argument → Value
  | .value v => v
  | .entries pairs => .dict (opaqueEntries pairs)
  | .callback .. => .callback
  | .query _ => .query

/-- The entries of a dictionary where only values are of use. -/
def opaqueEntries : List (Value × Argument) → List (Value × Value)
  | [] => []
  | (k, a) :: rest => (k, a.opaqueValue) :: opaqueEntries rest

end

namespace Argument

def missing : Argument :=
  .value .missing

def isMissing : Argument → Bool
  | .value .missing => true
  | _ => false

def text (a : Argument) : String :=
  a.opaqueValue.display

/-- The argument counts as true where a flag is expected. -/
def isTruthy (a : Argument) : Bool :=
  a.opaqueValue.isTruthy

/-- The values that the argument yields one by one. -/
def elements (a : Argument) : Except Fault (List Value) :=
  a.opaqueValue.elements

def entries? : Argument → Option (List (Value × Argument))
  | .entries pairs => some pairs
  | .value (.dict pairs) => some (pairs.map fun (k, v) => (k, .value v))
  | _ => none

/-- Values for the placeholders of raw SQL; anything that counts as false stands for none. -/
def rawValues (a : Argument) : Except Fault (List Value) :=
  if a.isTruthy then a.elements else .ok []

end Argument

/-! ## Operators -/

def operators : List String :=
  ["=", "<", ">", "<=", ">=", "<>", "!=", "like", "not like", "ilike", "not ilike", "in", "not in",
   "global in", "global not in"]

def Argument.operator? : Argument → Option String
  | .value (.text s) =>
    let small := Text.lower s
    if operators.contains small then some small else none
  | _ => none

/-- An operator that can compare with NULL. -/
def comparesNull (operator : String) : Bool :=
  operator == "=" || operator == "<>" || operator == "!="

/-- The operator and the value of a comparison. Without a value the operator is the value; what
names no operator is taken for the value as well. -/
def prepared (operator value : Argument) : Except Fault (String × Argument) :=
  if value.isMissing then .ok ("=", operator)
  else match operator.operator? with
    | none => .ok ("=", operator)
    | some named =>
      match value with
      | .value .null =>
        if comparesNull named then .ok (named, value) else .error (.illegalCombination named)
      | _ => .ok (named, value)

/-! ## Owners -/

/-- Who owns a list of conditions. -/
inductive Host where
  /-- A query on a table. -/
  | query (table : Value)
  /-- A join, with or without a way to make inner queries. -/
  | join (kind : String) (table : Value) (subqueries : Bool)
  /-- Nobody. -/
  | bare (subqueries : Bool)

namespace Host

/-- Inner queries can be made. -/
def allowsSubqueries : Host → Bool
  | query _ => true
  | join _ _ subqueries => subqueries
  | bare subqueries => subqueries

/-- What the conditions of a group belong to, with the given ones. -/
def group? (host : Host) (conditions : List Condition) : Option Group :=
  match host with
  | query table => some (.query { Query.on table with conditions })
  | join kind table _ => some (.join { kind, table, conditions })
  | bare _ => none

/-- The inner query that an argument stands for. -/
def source (host : Host) : Argument → Except Fault Source
  | .callback onQuery _ =>
    if host.allowsSubqueries then (onQuery {}).result.map .own else .error .ownerlessSubquery
  | .query source => .ok source
  | argument => .ok (.other argument.opaqueValue)

def filled (host : Host) (callback : Argument) (fresh : Group) : Except Fault Group :=
  match callback, fresh with
  | .callback onQuery _, .query q => (onQuery q).result.map .query
  | .callback _ onJoin, .join j => (onJoin host.allowsSubqueries j).result.map .join
  | _, _ => .error .wrongKind

end Host

/-! ## Conditions -/

namespace Conditions

/-- Add a group, unless it is empty. -/
def addGroup (boolean : String) (members : Group) (cs : List Condition) : List Condition :=
  if members.conditions.isEmpty then cs else cs ++ [.group boolean members]

/-- Add the group that a callback fills in. -/
def addNested (host : Host) (callback : Argument) (boolean : String) (cs : List Condition) :
    Except Fault (List Condition) :=
  match host.group? [] with
  | none => .error .ownerlessGroup
  | some fresh => do return addGroup boolean (← host.filled callback fresh) cs

/-- Add a comparison: with the rows of an inner query, with NULL, or with a value. -/
def addComparison (host : Host) (column operator value : Argument) (boolean : String)
    (cs : List Condition) : Except Fault (List Condition) := do
  let (operator, value) ← prepared operator value
  let name := column.opaqueValue
  match value with
  | .callback .. | .query _ =>
    return cs ++ [.compareRow boolean name operator (← host.source value)]
  | .value .null =>
    if operator == "=" then return cs ++ [.isNull boolean name false]
    else if operator == "!=" || operator == "<>" then return cs ++ [.isNull boolean name true]
    else return cs ++ [.compare boolean name operator .null]
  | _ => return cs ++ [.compare boolean name operator value.opaqueValue]

/-- Add an equation for every entry of a dictionary. -/
def addEntries (host : Host) : List (Value × Argument) → List Condition → Outcome (List Condition)
  | [], cs => .done cs
  | (key, value) :: rest, cs =>
    (Outcome.ofResult cs
      (addComparison host (.value key) (.value (.text "=")) value "and" cs)).andThen
      (addEntries host rest)

/-- Add a dictionary: as a group where groups can be made, one by one otherwise. -/
def addDictionary (host : Host) (entries : List (Value × Argument)) (boolean : String)
    (cs : List Condition) : Outcome (List Condition) :=
  match host with
  | .bare _ => addEntries host entries cs
  | _ => .ofResult cs do
    let inner ← (addEntries host entries []).result
    match host.group? inner with
    | some members => return addGroup boolean members cs
    | none => throw .ownerlessGroup

/-- Add a condition on a column, a dictionary of equations, or a group filled in by a callback. -/
def add (host : Host) (column operator value : Argument) (boolean : String)
    (cs : List Condition) : Outcome (List Condition) :=
  match column.entries? with
  | some entries => addDictionary host entries boolean cs
  | none => .ofResult cs <|
    match column with
    | .callback .. =>
      if operator.isMissing then addNested host column boolean cs
      else addComparison host column operator value boolean cs
    | _ => addComparison host column operator value boolean cs

/-- Add raw SQL. -/
def addSql (sql values : Argument) (boolean : String) (cs : List Condition) :
    Except Fault (List Condition) := do
  return cs ++ [.sql boolean sql.text (← values.rawValues)]

/-- Add a comparison of two columns. -/
def addColumns (first operator second : Argument) (boolean : String) (cs : List Condition) :
    Except Fault (List Condition) := do
  let (operator, second) ← prepared operator second
  return cs ++ [.compareColumns boolean first.opaqueValue operator second.opaqueValue]

/-- Add a condition that a column is among values, or among the rows of an inner query. -/
def addAmong (host : Host) (column values : Argument) (boolean : String) (negated : Bool)
    (cs : List Condition) : Except Fault (List Condition) := do
  match values with
  | .callback .. | .query _ =>
    return cs ++ [.amongRows boolean column.opaqueValue (← host.source values) negated]
  | _ => return cs ++ [.among boolean column.opaqueValue (← values.elements) negated]

/-- Add a condition that a column lies between two values. -/
def addBetween (column values : Argument) (boolean : String) (negated : Bool)
    (cs : List Condition) : Except Fault (List Condition) := do
  match ← values.elements with
  | [low, high] => return cs ++ [.between boolean column.opaqueValue low high negated]
  | other => throw (.rangeSize other.length)

def addDatePart (function : String) (column operator value : Argument) (boolean : String)
    (cs : List Condition) : Except Fault (List Condition) := do
  let (operator, value) ← prepared operator value
  return cs ++ [.datePart boolean function column.opaqueValue operator value.opaqueValue]

/-- Add a condition that an inner query has rows. -/
def addExistence (host : Host) (query : Argument) (boolean : String) (negated : Bool)
    (cs : List Condition) : Except Fault (List Condition) := do
  return cs ++ [.existence boolean (← host.source query) negated]

/-- Add a condition of a join: between two columns, or a group filled in by a callback. -/
def addOn (host : Host) (first operator second : Argument) (boolean : String)
    (cs : List Condition) : Except Fault (List Condition) :=
  match first with
  | .callback .. => addNested host first boolean cs
  | _ => addColumns first operator second boolean cs

end Conditions

end QueryClient
