import QueryClient.Query.Basic
import QueryClient.Query.Identifier
import QueryClient.Text.Blank
import QueryClient.Value.Equality

/-!
# Queries as SQL

A grammar turns a query into one SQL text. Values never appear in it: each becomes a placeholder,
raw SQL excepted. The parts of a statement stand in a fixed order with single spaces between.
-/

namespace QueryClient

/-- How queries are written. -/
structure Grammar where
  /-- Put in front of every table name. -/
  tablePrefix : String := ""
  /-- Kinds of conditions that cannot be written. -/
  disabled : List ConditionKind := []

namespace Grammar

/-! ## Names and placeholders -/

def column (g : Grammar) (v : Value) : Except Fault String :=
  Identifier.ofColumn g.tablePrefix v

def table (g : Grammar) (v : Value) : Except Fault String :=
  Identifier.ofTable g.tablePrefix v

/-- A name; its alias carries the prefix when it is the alias of a table. -/
def name (g : Grammar) (prefixAlias : Bool) (v : Value) : Except Fault String :=
  Identifier.ofName g.tablePrefix prefixAlias v

/-- Columns with commas between. -/
def columns (g : Grammar) (vs : List Value) : Except Fault String := do
  return Text.join ", " (← vs.mapM g.column)

/-- The place of a value: raw SQL as it is, a placeholder for anything else. -/
def parameter : Value → String
  | .raw inner => inner.display
  | _ => "?"

/-- Places of values with commas between. -/
def parameters (vs : List Value) : String :=
  Text.join ", " (vs.map parameter)

/-- The text starts with a word of small letters, in any case, and a space. -/
def startsWithWord (word cs : List Char) : Bool :=
  (cs.take (word.length + 1)).map Char.toLower == word ++ [' ']

/-- The text without one word `and` or `or` and the space behind it. -/
def withoutLeadingBoolean (s : String) : String :=
  if startsWithWord ['a', 'n', 'd'] s.toList then String.ofList (s.toList.drop 4)
  else if startsWithWord ['o', 'r'] s.toList then String.ofList (s.toList.drop 3)
  else s

/-! ## Flat parts -/

/-- The selected columns or the function in their place. -/
def selection (g : Grammar) (o : Outline) : Except Fault (List String) :=
  match o.aggregate with
  | some aggregate => do
    let columns ← g.columns aggregate.columns
    let columns := if o.distinct && columns != "*" then "distinct " ++ columns else columns
    return ["select " ++ aggregate.function ++ "(" ++ columns ++ ") as aggregate"]
  | none => do
    let columns ← g.columns (o.columns.getD [.text "*"])
    return [(if o.distinct then "select distinct " else "select ") ++ columns]

def fromTable (g : Grammar) (o : Outline) : Except Fault (List String) :=
  if o.table.isNull then .ok [] else do return ["from " ++ (← g.table o.table)]

/-- The columns that rows are grouped by. -/
def grouping (g : Grammar) (o : Outline) : Except Fault (List String) :=
  if o.groups.isEmpty then .ok [] else do return ["group by " ++ (← g.columns o.groups)]

/-- One entry of an order; raw SQL is taken as it is. -/
def orderEntry (g : Grammar) : Order → Except Fault Value
  | .by column direction => do return .text ((← g.column column) ++ " " ++ direction.text)
  | .sql .null => .error .lacksMember
  | .sql text => .ok text

/-- The text of an entry of an order; only text can be joined with commas. -/
def orderText : Value → Except Fault String
  | .text s => .ok s
  | _ => .error .wrongKind

def ordering (g : Grammar) (orders : List Order) : Except Fault (List String) :=
  if orders.isEmpty then .ok [] else do
    let entries ← orders.mapM g.orderEntry
    return ["order by " ++ Text.join ", " (← entries.mapM orderText)]

/-- A bound on rows, when there is one. -/
def bound (word : String) (n : Option Int) : List String :=
  match n with
  | some n => [word ++ " " ++ toString n]
  | none => []

/-- Order and bounds of a union. -/
def unionTail (g : Grammar) (o : Outline) : Except Fault String := do
  let parts := (← g.ordering o.unionOrders) ++ bound "limit" o.unionLimit
    ++ bound "offset" o.unionOffset
  return String.join (parts.map (" " ++ ·))

/-! ## Conditions and queries -/

/-- A condition with the word in front of it. -/
def joined (boolean sql : String) : String :=
  boolean ++ " " ++ sql

/-- Conditions one after the other; the word in front of the first one is left out. -/
def sequenced (parts : List String) : String :=
  withoutLeadingBoolean (Text.join " " parts)

/-- Conditions behind the word for them; nothing when there are none. -/
def introduced (word : String) (parts : List String) : String :=
  if parts.isEmpty then "" else word ++ " " ++ sequenced parts

/-- The word for the conditions of a query or a join. -/
def conjunction : Group → String
  | .query _ => "where"
  | .join _ => "on"

/-- The text without as many characters as the word has, and one more. -/
def behindWord (word text : String) : String :=
  String.ofList (text.toList.drop (word.length + 1))

theorem behindWord_introduced (word : String) (parts : List String) :
    behindWord word (introduced word parts) = sequenced parts := by
  unfold behindWord introduced
  cases parts with
  | nil => rfl
  | cons part parts =>
      rw [List.isEmpty_cons, if_neg Bool.false_ne_true, String.toList_append,
        List.drop_left' (by simp [String.length_toList]), String.ofList_toList]

/-- Fails when conditions of a kind cannot be written. -/
def checkKind (g : Grammar) (condition : Condition) : Except Fault Unit :=
  if g.disabled.contains condition.kind then .error (.noCompiler condition.kind.name) else .ok ()

mutual

def condition (g : Grammar) : Condition → Except Fault String
  | .sql _ text _ => .ok text
  | .compare _ column operator value => do
    return (← g.column column) ++ " " ++ operator ++ " " ++ parameter value
  | .among _ column values negated =>
    if values.isEmpty then .ok (if negated then "1 = 1" else "0 = 1") else do
      return (← g.column column) ++ (if negated then " not in (" else " in (")
        ++ parameters values ++ ")"
  | .amongRows _ column source negated => do
    let name ← g.column column
    return name ++ (if negated then " not in (" else " in (") ++ (← g.source source) ++ ")"
  | .isNull _ column negated => do
    return (← g.column column) ++ (if negated then " is not null" else " is null")
  | .between _ column _ _ negated => do
    return (← g.column column) ++ (if negated then " not between ? and ?" else " between ? and ?")
  | .datePart _ function column operator value => do
    return function ++ "(" ++ (← g.column column) ++ ") " ++ operator ++ " " ++ parameter value
  | .group _ members => do
    let nested := introduced (conjunction members) (← g.group members)
    return "(" ++ behindWord (conjunction members) nested ++ ")"
  | .compareRow _ column operator source => do
    let select ← g.source source
    return (← g.column column) ++ " " ++ operator ++ " (" ++ select ++ ")"
  | .existence _ source negated => do
    return (if negated then "not exists (" else "exists (") ++ (← g.source source) ++ ")"
  | .compareColumns _ first operator second => do
    return (← g.column first) ++ " " ++ operator ++ " " ++ (← g.column second)

def group (g : Grammar) : Group → Except Fault (List String)
  | .query ⟨_, _, conditions, _, _⟩ => g.conditions conditions
  | .join ⟨_, _, conditions⟩ => g.conditions conditions

/-- An inner query. -/
def source (g : Grammar) : Source → Except Fault String
  | .own q => g.query q
  | .shared _ => .error .endless
  | .other _ => .error .lacksMember

def join (g : Grammar) : Join → Except Fault String
  | ⟨kind, table, conditions⟩ => do
    let name ← g.table table
    let on := introduced "on" (← g.conditions conditions)
    return Text.trim (kind ++ " join " ++ name ++ " " ++ on)

/-- A united query. -/
def union (g : Grammar) : Union → Except Fault String
  | ⟨source, all⟩ => do
    return (if all then " union all (" else " union (") ++ (← g.source source) ++ ")"

def query (g : Grammar) : Query → Except Fault String
  | ⟨outline, joins, conditions, havings, unions⟩ => do
    let selection ← g.selection outline
    let fromTable ← g.fromTable outline
    let joins ← g.joins joins
    let wheres ← g.conditions conditions
    let grouping ← g.grouping outline
    let havings ← g.conditions havings
    let ordering ← g.ordering outline.orders
    let parts := selection ++ fromTable
      ++ (if joins.isEmpty then [] else [Text.join " " joins])
      ++ (if wheres.isEmpty then [] else [introduced "where" wheres])
      ++ grouping
      ++ (if havings.isEmpty then [] else [introduced "having" havings])
      ++ ordering ++ bound "limit" outline.limit ++ bound "offset" outline.offset
    let sql := Text.trim (Text.join " " parts)
    let unions ← g.unions unions
    if unions.isEmpty then return sql
    else
      let tail ← g.unionTail outline
      return "(" ++ sql ++ ") " ++ Text.trimStart (String.join unions ++ tail)

/-- Conditions, each with the word in front of it. -/
def conditions (g : Grammar) : List Condition → Except Fault (List String)
  | [] => .ok []
  | c :: rest => do
    g.checkKind c
    let sql ← g.condition c
    return joined c.boolean sql :: (← g.conditions rest)

def joins (g : Grammar) : List Join → Except Fault (List String)
  | [] => .ok []
  | j :: rest => do
    let sql ← g.join j
    return sql :: (← g.joins rest)

/-- United queries. -/
def unions (g : Grammar) : List Union → Except Fault (List String)
  | [] => .ok []
  | u :: rest => do
    let sql ← g.union u
    return sql :: (← g.unions rest)

end

/-- The conditions of a query or a join with the word in front of them. -/
def wheres (g : Grammar) (members : Group) : Except Fault String := do
  return introduced (conjunction members) (← g.group members)

/-- A group is written as its conditions are behind their word, between parentheses. -/
theorem condition_group (g : Grammar) (boolean : String) (members : Group) :
    g.condition (.group boolean members)
      = (do return "(" ++ sequenced (← g.group members) ++ ")") := by
  simp only [condition, behindWord_introduced]

/-- A query that tells whether another one has rows. -/
def existence (g : Grammar) (q : Query) : Except Fault String := do
  return "select exists(" ++ (← g.query q) ++ ") as `exists`"

/-! ## Inserts -/

def rowEntries : Value → Except Fault (List (Value × Value))
  | .dict entries => .ok entries
  | _ => .error .lacksMember

/-- A key is among others. -/
def holdsKey (keys : List Value) (k : Value) : Bool :=
  keys.any (·.same k)

/-- Two lists of keys hold the same ones. -/
def sameKeys (as bs : List Value) : Bool :=
  as.all (holdsKey bs) && bs.all (holdsKey as)

def entryOf (entries : List (Value × Value)) (k : Value) : Value :=
  ((entries.find? fun (k', _) => k'.same k).map (·.2)).getD .missing

/-- The rows to insert: a single one stands for a list of it. -/
def insertedRows (rows : Value) : Except Fault (List Value) :=
  match rows with
  | .dict _ => .ok [rows]
  | _ => rows.elements

/-- The values of a row in the order of the columns, which must be its own. -/
def rowValues (keys : List Value) (row : Value) : Except Fault (List Value) := do
  let entries ← rowEntries row
  if sameKeys (entries.map (·.1)) keys then return keys.map (entryOf entries)
  else throw .unevenRows

/-- The columns of an insert, and for each row its values in their order. All rows must have the
columns of the first. -/
def insertedColumns (rows : List Value) : Except Fault (List Value × List (List Value)) :=
  match rows with
  | [] => .error .noRows
  | first :: rest => do
    let entries ← rowEntries first
    let keys := entries.map (·.1)
    return (keys, entries.map (·.2) :: (← rest.mapM (rowValues keys)))

def insert (g : Grammar) (q : Query) (rows : Value) : Except Fault String := do
  let table ← g.table q.outline.table
  let (keys, tuples) ← insertedColumns (← insertedRows rows)
  let columns ← g.columns keys
  let tuples := tuples.map fun values => "(" ++ parameters values ++ ")"
  return "insert into " ++ table ++ " (" ++ columns ++ ") values " ++ Text.join ", " tuples

/-- The values that an insert binds, row by row in the order of the columns. -/
def insertedValues (rows : Value) : Except Fault (List Value) := do
  let (_, tuples) ← insertedColumns (← insertedRows rows)
  return tuples.flatMap fun values => values.filter fun v => !v.isRaw

end Grammar

end QueryClient
