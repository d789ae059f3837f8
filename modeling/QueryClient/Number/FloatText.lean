import QueryClient.Number.Decimal
import QueryClient.Number.Shortest

/-!
# Texts of numbers

Binary numbers are written with the fewest digits that read back, in positional notation for
exponents from -4 to 15. Numbers are read with an optional sign, digits of any script, and
underscores that stand between two digits.
-/

namespace QueryClient.Number

/-! ## Writing -/

/-- The exponents of ten that are written positionally. -/
def isPositional (exponent : Int) : Bool :=
  -4 ≤ exponent && exponent < 16

/-- An exponent with its sign and at least two digits. -/
def paddedExponent (e : Int) : String :=
  let digits := toString e.natAbs
  (if e < 0 then "-" else "+") ++ (if digits.length < 2 then "0" ++ digits else digits)

/-- The text of a shortest decimal. -/
def Digits.text (d : Digits) : String :=
  let digits := (toString d.digits).toList
  let leading : Int := d.exponent + digits.length - 1
  if isPositional leading then
    if d.exponent ≥ 0 then
      String.ofList (digits ++ List.replicate d.exponent.toNat '0') ++ ".0"
    else withPoint digits (leading + 1)
  else withPoint digits 1 ++ "e" ++ paddedExponent leading

def Binary64.text : Binary64 → String
  | .nan => "nan"
  | .infinite negative => signText negative ++ "inf"
  | .finite negative m q =>
    signText negative ++ (if m == 0 then "0.0" else (shortest m q).text)

def floatText (x : Float) : String :=
  (Binary64.ofFloat x).text

/-! ## Reading -/

/-- Underscores stand between two digits only; `afterDigit` tells what came before. -/
def underscoresPlaced (afterDigit : Bool) : List Char → Bool
  | [] => true
  | '_' :: c :: rest => afterDigit && isDecimalDigit c && underscoresPlaced true rest
  | '_' :: [] => false
  | c :: rest => underscoresPlaced (isDecimalDigit c) rest

/-- The characters of a number without white space around them and without underscores. -/
def numeralChars? (s : String) : Option (List Char) :=
  let cs := Text.trimChars s.toList
  if underscoresPlaced false cs then some (cs.filter (· != '_')) else none

/-- The whole number that a text names. -/
def integerOfText? (s : String) : Option Int := do
  signedDigits? (← numeralChars? s)

/-- The binary number that a text names. -/
def floatOfText? (s : String) : Option Float := do
  match ← decimalOfChars? (← numeralChars? s) with
  | .nan _ true _ => none
  | .nan _ false payload =>
    if payload == 0 && !(s.toList.any isDecimalDigit) then some Binary64.nan.toFloat else none
  | d => some d.toBinary.toFloat

/-! ## Parts of a number -/

/-- The whole part of a finite floating-point number. -/
def truncateFloat? (x : Float) : Option Int :=
  match Binary64.ofFloat x with
  | .finite negative m q =>
    let (a, b) := powTwo q
    let whole : Int := (m * a / b : Nat)
    some (if negative then -whole else whole)
  | _ => none

def isWhole (x : Float) : Bool :=
  match Binary64.ofFloat x with
  | .finite _ m q =>
    let (a, b) := powTwo q
    m * a % b == 0
  | _ => false

end QueryClient.Number
