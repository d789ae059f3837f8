import QueryClient.Value
import QueryClient.Text.Utf8

/-!
# Whole numbers from values

A count may be given as a number, whose fraction is dropped, or as text that names a whole number.
-/

namespace QueryClient.Value

def wholeOfText (s : String) : Except Fault Int :=
  match Number.integerOfText? s with
  | some n => .ok n
  | none => .error .unusable

/-- The number that hexadecimal digits stand for; other characters are passed over. -/
def hexNumber (cs : List Char) : Nat :=
  cs.foldl (fun n c =>
    if c.isDigit then n * 16 + (c.toNat - 48)
    else if 'a' ≤ c && c ≤ 'f' then n * 16 + (c.toNat - 87)
    else n) 0

/-- The whole number that a value stands for. -/
def toWhole : Value → Except Fault Int
  | int n => .ok n
  | bool b => .ok (if b then 1 else 0)
  | float x =>
    match Number.truncateFloat? x with
    | some n => .ok n
    | none => .error (if x.isNaN then .unusable else .unbounded)
  | decimal d =>
    match d, d.truncate? with
    | _, some n => .ok n
    | .infinite _, none => .error .unbounded
    | _, none => .error .unusable
  | text s => wholeOfText s
  | bytes data | bytearray data => wholeOfText (Text.decodeLenient data)
  | uuid s => .ok (hexNumber s.toList)
  | _ => .error .wrongKind

/-! ## Arithmetic on counts -/

/-- A whole number, when the value is one. -/
def asInt? : Value → Option Int
  | int n => some n
  | bool b => some (if b then 1 else 0)
  | _ => none

/-- A floating-point number, when the value is a number of the binary kinds. -/
def asFloat? : Value → Option Float
  | float x => some x
  | v => v.asInt?.map fun n =>
    (Number.Binary64.nearest (n < 0) n.natAbs 1).toFloat

/-- A number as an exact ratio, when it is a whole or a decimal one. -/
def asRatio? : Value → Option (Int × Nat)
  | decimal (.finite negative coefficient exponent) =>
    let (a, b) := Number.decimalRatio coefficient exponent
    some (if negative then -(a : Int) else a, b)
  | v => v.asInt?.map (·, 1)

/-- A list repeated a number of times. -/
def repeated {α : Type} (items : List α) (n : Int) : List α :=
  (List.replicate n.toNat items).flatten

/-- A whole number of times something; what can be repeated is. -/
def times (n : Int) : Value → Except Fault Value
  | text s => .ok (text (String.ofList (repeated s.toList n)))
  | bytes data => .ok (bytes (repeated data n))
  | bytearray data => .ok (bytearray (repeated data n))
  | float x => .ok (float (((int n).asFloat?.getD 0) * x))
  | decimal d => .ok (decimal d)
  | _ => .error .wrongKind

/-- The number of rows in front of a page. Decimals that are no numbers stay so. -/
def rowsBefore (page perPage : Value) : Except Fault Value :=
  match page.asRatio?, perPage.asRatio? with
  | some (a, b), some (c, d) => .ok (int (((a - b) * c).tdiv (b * d)))
  | _, _ =>
    match page, page.asInt?, perPage.asFloat? with
    | float x, _, some size => .ok (float ((x - 1) * size))
    | decimal d, _, some _ => .ok (decimal d)
    | _, some n, _ => times (n - 1) perPage
    | _, _, _ => .error .wrongKind

end QueryClient.Value
