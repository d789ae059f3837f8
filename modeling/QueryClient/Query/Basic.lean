import QueryClient.Fault
import QueryClient.Value

/-!
# Queries as data

A select statement is kept as plain data: what is selected from where, the joins with their own
conditions, the tree of conditions, and the queries it is united with. Building fills it, compiling
reads it.
-/

namespace QueryClient

/-! ## Flat parts -/

inductive Direction where
  | ascending
  | descending
deriving Repr, DecidableEq

/-- The SQL word of a direction. -/
def Direction.text : Direction → String
  | ascending => "asc"
  | descending => "desc"

/-- One entry of an ORDER BY clause. -/
inductive Order where
  | by (column : Value) (direction : Direction)
  | sql (text : Value)

/-- A function over columns that takes the place of the selected columns. -/
structure Aggregate where
  function : String
  columns : List Value

/-- The parts of a query that hold no conditions and no other query. -/
structure Outline where
  /-- The table; null when there is none. -/
  table : Value := .null
  /-- The selected columns; none selects all. -/
  columns : Option (List Value) := none
  distinct : Bool := false
  aggregate : Option Aggregate := none
  groups : List Value := []
  orders : List Order := []
  limit : Option Int := none
  offset : Option Int := none
  /-- Orders and bounds of the whole union. -/
  unionOrders : List Order := []
  unionLimit : Option Int := none
  unionOffset : Option Int := none

/-! ## Conditions and queries -/

mutual

/-- A condition. The word in front joins it to the condition before. -/
inductive Condition where
  /-- SQL that is taken as it is, with the values of its placeholders. -/
  | sql (boolean : String) (text : String) (values : List Value)
  | compare (boolean : String) (column : Value) (operator : String) (value : Value)
  | among (boolean : String) (column : Value) (values : List Value) (negated : Bool)
  | amongRows (boolean : String) (column : Value) (source : Source) (negated : Bool)
  | isNull (boolean : String) (column : Value) (negated : Bool)
  | between (boolean : String) (column low high : Value) (negated : Bool)
  /-- A comparison of a part of a date, taken by a function. -/
  | datePart (boolean : String) (function : String) (column : Value) (operator : String)
      (value : Value)
  | group (boolean : String) (members : Group)
  | compareRow (boolean : String) (column : Value) (operator : String) (source : Source)
  | existence (boolean : String) (source : Source) (negated : Bool)
  | compareColumns (boolean : String) (first : Value) (operator : String) (second : Value)

/-- What stands between the parentheses of a group: the conditions of a whole query or of a
join. -/
inductive Group where
  | query (q : Query)
  | join (j : Join)

/-- Where the rows of an inner query come from. -/
inductive Source where
  | own (q : Query)
  /-- A query that others use as well, by its number in a workspace. -/
  | shared (id : Nat)
  /-- A value that is no query. -/
  | other (v : Value)

structure Join where
  kind : String
  table : Value
  conditions : List Condition := []

structure Union where
  source : Source
  all : Bool

/-- A select statement. -/
structure Query where
  outline : Outline := {}
  joins : List Join := []
  conditions : List Condition := []
  havings : List Condition := []
  unions : List Union := []

end

instance : Inhabited Query := ⟨{}⟩

def Query.on (table : Value) : Query :=
  { outline := { table } }

/-! ## Kinds of conditions -/

inductive ConditionKind where
  | raw | basic | member | notMember | memberRows | notMemberRows | null | notNull | between
  | date | nested | row | rows | noRows | column
deriving Repr, DecidableEq

def ConditionKind.tag : ConditionKind → String
  | raw => "raw"
  | basic => "basic"
  | member => "in"
  | notMember => "not_in"
  | memberRows => "in_sub"
  | notMemberRows => "not_in_sub"
  | null => "null"
  | notNull => "not_null"
  | between => "between"
  | date => "date"
  | nested => "nested"
  | row => "sub"
  | rows => "exists"
  | noRows => "not_exists"
  | column => "column"

def ConditionKind.all : List ConditionKind :=
  [raw, basic, member, notMember, memberRows, notMemberRows, null, notNull, between, date, nested,
   row, rows, noRows, column]

def ConditionKind.ofTag? (tag : String) : Option ConditionKind :=
  all.find? (·.tag == tag)

/-- The tag in capital letters. -/
def ConditionKind.name (kind : ConditionKind) : String :=
  kind.tag.map Char.toUpper

namespace Condition

def kind : Condition → ConditionKind
  | sql .. => .raw
  | compare .. => .basic
  | among _ _ _ negated => if negated then .notMember else .member
  | amongRows _ _ _ negated => if negated then .notMemberRows else .memberRows
  | isNull _ _ negated => if negated then .notNull else .null
  | between .. => .between
  | datePart .. => .date
  | group .. => .nested
  | compareRow .. => .row
  | existence _ _ negated => if negated then .noRows else .rows
  | compareColumns .. => .column

/-- The word that joins a condition to the one before. -/
def boolean : Condition → String
  | sql boolean .. | compare boolean .. | among boolean .. | amongRows boolean ..
  | isNull boolean .. | between boolean .. | datePart boolean .. | group boolean ..
  | compareRow boolean .. | existence boolean .. | compareColumns boolean .. => boolean

end Condition

def Group.conditions : Group → List Condition
  | query q => q.conditions
  | join j => j.conditions

end QueryClient
