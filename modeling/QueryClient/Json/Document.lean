import QueryClient.Entries
import QueryClient.Value

/-!
# JSON documents

What a server answers in: the values of JSON, with whole numbers of any size, floating-point
numbers that may be infinite or no number, and objects whose members keep their order.
-/

namespace QueryClient

inductive Document where
  | null
  | bool (b : Bool)
  | int (n : Int)
  | float (x : Float)
  | text (s : String)
  | array (items : List Document)
  | object (members : List (String × Document))
deriving Inhabited

namespace Document

mutual

def toValue : Document → Value
  | null => .null
  | bool b => .bool b
  | int n => .int n
  | float x => .float x
  | text s => .text s
  | array items => .list (valuesOf items)
  | object members => .dict (entriesOf members)

def valuesOf : List Document → List Value
  | [] => []
  | item :: rest => item.toValue :: valuesOf rest

def entriesOf : List (String × Document) → List (Value × Value)
  | [] => []
  | (k, v) :: rest => (.text k, v.toValue) :: entriesOf rest

end

/-- The member of an object; what is no object has none. -/
def member? (name : String) : Document → Option Document
  | object members => Entries.find? name members
  | _ => none

end Document

end QueryClient
