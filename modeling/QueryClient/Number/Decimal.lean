import QueryClient.Text.Blank
import QueryClient.Text.Word
import QueryClient.Text.Case
import QueryClient.Number.Binary64

/-!
# Decimal numbers

A decimal number is a whole coefficient times a power of ten, so it keeps the zeros at its end; it
may also be infinite or no number at all. Its text is the scientific string of the decimal
arithmetic standard.
-/

namespace QueryClient.Number

inductive Decimal where
  /-- The value `coefficient * 10 ^ exponent`, negated when `negative`. -/
  | finite (negative : Bool) (coefficient : Nat) (exponent : Int)
  | infinite (negative : Bool)
  /-- No number; a payload of zero is not shown. -/
  | nan (negative signaling : Bool) (payload : Nat)
deriving Repr, DecidableEq

/-! ## Text of a decimal -/

def signText (negative : Bool) : String :=
  if negative then "-" else ""

/-- Digits with a point after the first `places` of them; missing places are zeros. -/
def withPoint (digits : List Char) (places : Int) : String :=
  if places ≤ 0 then
    "0." ++ String.ofList (List.replicate (-places).toNat '0' ++ digits)
  else if digits.length ≤ places.toNat then String.ofList digits
  else String.ofList (digits.take places.toNat ++ '.' :: digits.drop places.toNat)

def exponentText (e : Int) : String :=
  (if e < 0 then "-" else "+") ++ toString e.natAbs

/-- The scientific string of a decimal. -/
def Decimal.text : Decimal → String
  | .infinite negative => signText negative ++ "Infinity"
  | .nan negative signaling payload =>
    signText negative ++ (if signaling then "sNaN" else "NaN")
      ++ (if payload == 0 then "" else toString payload)
  | .finite negative coefficient exponent =>
    let digits := (toString coefficient).toList
    let adjusted : Int := exponent + digits.length - 1
    signText negative ++
      (if exponent ≤ 0 && adjusted ≥ -6 then
        if exponent == 0 then String.ofList digits else withPoint digits (digits.length + exponent)
      else withPoint digits 1 ++ "E" ++ exponentText adjusted)

/-! ## Reading a decimal -/

/-- The value of a run of decimal digits of any script. -/
def digitsValue? (cs : List Char) : Option Nat :=
  if cs.isEmpty then none
  else cs.foldl (fun acc c => do return (← acc) * 10 + (← Text.decimalValue? c)) (some 0)

def splitSign : List Char → Bool × List Char
  | '-' :: rest => (true, rest)
  | '+' :: rest => (false, rest)
  | cs => (false, cs)

/-- A whole number with an optional sign. -/
def signedDigits? (cs : List Char) : Option Int :=
  let (negative, digits) := splitSign cs
  (digitsValue? digits).map fun n => if negative then -(n : Int) else n

/-- A decimal digit of any script. -/
def isDecimalDigit (c : Char) : Bool :=
  (Text.decimalValue? c).isSome

/-- The digits behind a point, and what follows them. -/
def splitFraction : List Char → List Char × List Char
  | '.' :: rest => (rest.takeWhile isDecimalDigit, rest.dropWhile isDecimalDigit)
  | rest => ([], rest)

/-- The exponent at the end of a number; without one it is zero. -/
def exponentValue? : List Char → Option Int
  | [] => some 0
  | e :: rest => if e == 'e' || e == 'E' then signedDigits? rest else none

/-- Digits with an optional point and an optional exponent. -/
def unsignedDecimal? (negative : Bool) (cs : List Char) : Option Decimal := do
  let whole := cs.takeWhile isDecimalDigit
  let (fraction, rest) := splitFraction (cs.dropWhile isDecimalDigit)
  let coefficient ← digitsValue? (whole ++ fraction)
  let exponent ← exponentValue? rest
  return .finite negative coefficient (exponent - fraction.length)

/-- A decimal number, a name of infinity, or a name of what is no number. -/
def decimalOfChars? (cs : List Char) : Option Decimal :=
  let (negative, rest) := splitSign cs
  let name := String.ofList (rest.map Char.toLower)
  if name == "inf" || name == "infinity" then some (.infinite negative)
  else if name.startsWith "nan" then
    let payload := rest.drop 3
    if payload.isEmpty then some (.nan negative false 0)
    else (digitsValue? payload).map (.nan negative false)
  else if name.startsWith "snan" then
    let payload := rest.drop 4
    if payload.isEmpty then some (.nan negative true 0)
    else (digitsValue? payload).map (.nan negative true)
  else unsignedDecimal? negative rest

/-- The decimal that a text names; underscores are ignored. -/
def Decimal.ofText? (s : String) : Option Decimal :=
  decimalOfChars? ((Text.trimChars s.toList).filter (· != '_'))

/-! ## Conversions -/

/-- The value of a finite decimal as a ratio. -/
def decimalRatio (coefficient : Nat) (exponent : Int) : Nat × Nat :=
  (coefficient * Nat.pow 10 exponent.toNat, Nat.pow 10 (-exponent).toNat)

/-- The binary number nearest to a decimal. -/
def Decimal.toBinary : Decimal → Binary64
  | .infinite negative => .infinite negative
  | .nan _ _ _ => .nan
  | .finite negative coefficient exponent =>
    let magnitude : Int := (toString coefficient).length + exponent
    if coefficient == 0 || magnitude < -400 then .finite negative 0 (-1074)
    else if magnitude > 400 then .infinite negative
    else
      let (numerator, denominator) := decimalRatio coefficient exponent
      Binary64.nearest negative numerator denominator

/-- The whole part of a finite decimal. -/
def Decimal.truncate? : Decimal → Option Int
  | .finite negative coefficient exponent =>
    let (numerator, denominator) := decimalRatio coefficient exponent
    let whole : Int := (numerator / denominator : Nat)
    some (if negative then -whole else whole)
  | _ => none

def Decimal.isZero : Decimal → Bool
  | .finite _ coefficient _ => coefficient == 0
  | _ => false

end QueryClient.Number
