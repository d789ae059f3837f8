import QueryClient.Calendar
import QueryClient.Number.FloatText
import QueryClient.Sql.Statement

/-!
# Values

The values that callers hand over to be bound, compared and sent: the plain data types, containers
of them, raw SQL, and marks for things that are no data at all but may still end up where data is
expected.
-/

namespace QueryClient

open Number (Decimal)

inductive Value where
  | null
  | bool (b : Bool)
  | int (n : Int)
  | float (x : Float)
  | decimal (d : Decimal)
  | text (s : String)
  /-- SQL that is neither quoted nor bound. -/
  | raw (inner : Value)
  | list (items : List Value)
  | tuple (items : List Value)
  | set (items : List Value)
  /-- Entries in the order they were given. -/
  | dict (entries : List (Value × Value))
  | date (d : Date)
  | datetime (d : DateTime)
  | time (t : TimeOfDay)
  | bytes (data : List UInt8)
  | bytearray (data : List UInt8)
  /-- An identifier of 128 bits, as text. -/
  | uuid (s : String)
  /-- A member of an enumeration with its value. -/
  | member (inner : Value)
  | statement (s : Sql.Statement)
  /-- An argument that was not given. -/
  | missing
  /-- A query where data is expected. -/
  | query
  /-- A callback where data is expected. -/
  | callback
deriving Inhabited

namespace Value

/-! ## Kinds -/

/-- The value is raw SQL. -/
def isRaw : Value → Bool
  | raw _ => true
  | _ => false

/-- The value is absent. -/
def isNull : Value → Bool
  | null => true
  | _ => false

/-- The value counts as true where a flag is expected. -/
def isTruthy : Value → Bool
  | null => false
  | bool b => b
  | int n => n != 0
  | float x => x != 0
  | decimal d => !d.isZero
  | text s => !s.isEmpty
  | list items | tuple items | set items => !items.isEmpty
  | dict entries => !entries.isEmpty
  | bytes data | bytearray data => !data.isEmpty
  | _ => true

mutual

/-- The value can be a key. -/
def isHashable : Value → Bool
  | list _ | set _ | dict _ | bytearray _ => false
  | tuple items => areHashable items
  | raw inner => isHashable inner
  | _ => true

/-- All values can be keys. -/
def areHashable : List Value → Bool
  | [] => true
  | v :: rest => isHashable v && areHashable rest

end

/-! ## Parts -/

/-- The values that a container yields one by one. -/
def elements? : Value → Option (List Value)
  | list items | tuple items | set items => some items
  | dict entries => some (entries.map (·.1))
  | text s => some (s.toList.map fun c => text (String.singleton c))
  | bytes data | bytearray data => some (data.map fun b => int b.toNat)
  | _ => none

/-- The values of a container, or a failure. -/
def elements (v : Value) : Except Fault (List Value) :=
  match v.elements? with
  | some items => .ok items
  | none => .error .wrongKind

def lookup? (key : String) : List (Value × Value) → Option Value
  | [] => none
  | (text k, v) :: rest => if k == key then some v else lookup? key rest
  | _ :: rest => lookup? key rest

end Value

end QueryClient
