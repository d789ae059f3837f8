import QueryClient.Fault
import QueryClient.Value

/-!
# Equal values

Numbers of all kinds compare by their exact value, containers item by item, and raw SQL by what it
holds.
-/

namespace QueryClient.Value

/-! ## Numbers -/

/-- The exact value of a number. -/
inductive Quantity where
  | ratio (numerator : Int) (denominator : Nat)
  | infinite (negative : Bool)
  | nan

/-- Two quantities are the same; what is no number differs from everything. -/
def Quantity.same : Quantity → Quantity → Bool
  | .ratio a b, .ratio c d => a * d == c * b
  | .infinite a, .infinite b => a == b
  | _, _ => false

def quantity? : Value → Option Quantity
  | bool b => some (.ratio (if b then 1 else 0) 1)
  | int n => some (.ratio n 1)
  | float x =>
    match Number.Binary64.ofFloat x with
    | .nan => some .nan
    | .infinite negative => some (.infinite negative)
    | .finite negative m q =>
      let (a, b) := Number.powTwo q
      some (.ratio (if negative then -(m * a : Nat) else (m * a : Nat)) b)
  | decimal d =>
    match d with
    | .nan _ _ _ => some .nan
    | .infinite negative => some (.infinite negative)
    | .finite negative coefficient exponent =>
      let (a, b) := Number.decimalRatio coefficient exponent
      some (.ratio (if negative then -(a : Int) else a) b)
  | _ => none

/-! ## Instants -/

/-- Seconds and microseconds from a fixed day, by the local clock. -/
def localMicroseconds (d : DateTime) : Int :=
  let y : Int := if d.date.month ≤ 2 then d.date.year - 1 else d.date.year
  let m : Int := (d.date.month + 9) % 12
  let days := 365 * y + y / 4 - y / 100 + y / 400 + (153 * m + 2) / 5 + d.date.day
  ((days * 86400 + d.time.hour * 3600 + d.time.minute * 60 + d.time.second) * 1000000
    + d.time.microsecond)

/-- Two instants are the same; one with and one without a known distance from universal time
differ. -/
def sameInstant (a b : DateTime) : Bool :=
  match a.time.offset, b.time.offset with
  | none, none => localMicroseconds a == localMicroseconds b
  | some x, some y =>
    localMicroseconds a - x * 1000000 == localMicroseconds b - y * 1000000
  | _, _ => false

/-! ## Values -/

mutual

/-- Two values are equal. -/
def same : Value → Value → Bool
  | null, null => true
  | text a, text b => a == b
  | raw a, raw b => same a b
  | list as, list bs => sameItems as bs
  | tuple as, tuple bs => sameItems as bs
  | set as, set bs => sameItems as bs
  | dict as, dict bs => as.length == bs.length && sameEntries as bs
  | date a, date b => a == b
  | datetime a, datetime b => sameInstant a b
  | time a, time b => sameInstant ⟨⟨1, 1, 1⟩, a⟩ ⟨⟨1, 1, 1⟩, b⟩
  | bytes a, bytes b | bytes a, bytearray b | bytearray a, bytes b | bytearray a, bytearray b =>
    a == b
  | uuid a, uuid b => a == b
  | a, b =>
    match a.quantity?, b.quantity? with
    | some x, some y => x.same y
    | _, _ => false

/-- Two lists hold equal values in the same order. -/
def sameItems : List Value → List Value → Bool
  | [], [] => true
  | a :: as, b :: bs => same a b && sameItems as bs
  | _, _ => false

/-- Every entry of the first list stands in the second. -/
def sameEntries : List (Value × Value) → List (Value × Value) → Bool
  | [], _ => true
  | (k, v) :: rest, bs => sameIn k v bs && sameEntries rest bs

/-- An entry stands in a list. -/
def sameIn (k v : Value) : List (Value × Value) → Bool
  | [] => false
  | (k', v') :: rest => (same k k' && same v v') || sameIn k v rest

end

@[simp] theorem same_text (a b : String) : same (text a) (text b) = (a == b) := by rw [same]

/-- Two values are the same key; neither may be one that cannot be a key. -/
def sameKey (a b : Value) : Except Fault Bool :=
  if a.isHashable && b.isHashable then .ok (same a b) else .error .wrongKind

/-! ## Entries -/

/-- Set the entry of a key; a key that is there keeps its place. -/
def setEntry (k v : Value) : List (Value × Value) → List (Value × Value)
  | [] => [(k, v)]
  | (k', v') :: rest => if same k k' then (k', v) :: rest else (k', v') :: setEntry k v rest

/-- A dictionary of entries of which the last of a key counts. -/
def dictOf (entries : List (Value × Value)) : Value :=
  dict (entries.foldl (fun acc (k, v) => setEntry k v acc) [])

end QueryClient.Value
