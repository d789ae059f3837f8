import QueryClient.Entries
import QueryClient.Fault
import QueryClient.Number.FloatText
import QueryClient.Text.Utf8
import QueryClient.Value.Display

/-!
# Reading fields

A field of a configuration takes values of its own kind and those that can be read as one without
loss: numbers from text, flags from words, text from bytes. Everything else is a misfit.
-/

namespace QueryClient.Config

/-- Why a value does not fit a field. -/
inductive Misfit where
  | unreadableWhole
  | fraction
  | notFinite
  | notWhole
  | unreadableFlag
  | notFlag
  | notText
  | notUtf8
  | unreadableNumber
  | notNumber
  | notDictionary
  | notChoice
deriving Repr, DecidableEq

def Misfit.name : Misfit → String
  | unreadableWhole => "int_parsing"
  | fraction => "int_from_float"
  | notFinite => "finite_number"
  | notWhole => "int_type"
  | unreadableFlag => "bool_parsing"
  | notFlag => "bool_type"
  | notText => "string_type"
  | notUtf8 => "string_unicode"
  | unreadableNumber => "float_parsing"
  | notNumber => "float_type"
  | notDictionary => "dict_type"
  | notChoice => "enum"

/-! ## Text -/

def readText : Value → Except Misfit String
  | .text s => .ok s
  | .bytes data | .bytearray data =>
    match Text.decodeStrict? data with
    | some s => .ok s
    | none => .error .notUtf8
  | .member inner => .ok inner.display
  | _ => .error .notText

def readText? : Value → Except Misfit (Option String)
  | .null => .ok none
  | v => (readText v).map some

/-! ## Whole numbers -/

/-- White space as far as numbers in text go: the information separators are not part of it. -/
def isPadding (c : Char) : Bool :=
  Text.isBlank c && !(0x1c ≤ c.toNat && c.toNat ≤ 0x1f)

/-- Characters without padding at both ends. -/
def unpadded (cs : List Char) : List Char :=
  ((cs.dropWhile isPadding).reverse.dropWhile isPadding).reverse

/-- Digits with single underscores between two of them. -/
def groupedDigits? (cs : List Char) : Option Nat :=
  if Number.underscoresPlaced false cs && cs.all (fun c => c == '_' || c.isDigit) then
    Number.digitsValue? (cs.filter (· != '_'))
  else none

/-- Digits without the zeros in front, but for the last digit. -/
def withoutLeadingZeros (cs : List Char) : List Char :=
  match cs.dropWhile (· == '0') with
  | [] => cs.drop (cs.length - 1)
  | '.' :: rest => if cs.head? == some '0' then '0' :: '.' :: rest else '.' :: rest
  | rest => rest

/-- Digits without a fraction of zeros. -/
def withoutZeroFraction (cs : List Char) : List Char :=
  match cs.dropWhile (· != '.') with
  | '.' :: zeros => if zeros.all (· == '0') then cs.takeWhile (· != '.') else cs
  | _ => cs

/-- The whole number that a text names: a sign, digits, and perhaps a fraction of zeros. -/
def wholeOfText? (s : String) : Option Int :=
  let (negative, digits) := Number.splitSign (unpadded s.toList)
  (groupedDigits? (withoutZeroFraction (withoutLeadingZeros digits))).map fun n =>
    if negative then -(n : Int) else n

def readWhole : Value → Except Misfit Int
  | .int n => .ok n
  | .bool b => .ok (if b then 1 else 0)
  | .float x =>
    match Number.truncateFloat? x with
    | some n => if Number.isWhole x then .ok n else .error .fraction
    | none => .error .notFinite
  | .decimal (.finite negative coefficient exponent) =>
    let (numerator, denominator) := Number.decimalRatio coefficient exponent
    if numerator % denominator == 0 then
      let n : Int := (numerator / denominator : Nat)
      .ok (if negative then -n else n)
    else .error .fraction
  | .decimal _ => .error .notFinite
  | .text s =>
    match wholeOfText? s with
    | some n => .ok n
    | none => .error .unreadableWhole
  | .bytes data =>
    match (Text.decodeStrict? data).bind wholeOfText? with
    | some n => .ok n
    | none => .error .unreadableWhole
  | _ => .error .notWhole

/-! ## Flags -/

/-- The flag that a word names. -/
def flagOfText? (s : String) : Option Bool :=
  let small := String.ofList (s.toList.map Char.toLower)
  if ["1", "true", "t", "yes", "y", "on"].contains small then some true
  else if ["0", "false", "f", "no", "n", "off"].contains small then some false
  else none

/-- The flag that a whole number stands for. -/
def flagOfWhole (n : Int) : Except Misfit Bool :=
  if n == 0 then .ok false else if n == 1 then .ok true else .error .unreadableFlag

def readFlag : Value → Except Misfit Bool
  | .bool b => .ok b
  | .int n => flagOfWhole n
  | .text s =>
    match flagOfText? s with
    | some b => .ok b
    | none => .error .unreadableFlag
  | .bytes data =>
    match (Text.decodeStrict? data).bind flagOfText? with
    | some b => .ok b
    | none => .error .unreadableFlag
  | .float x =>
    match readWhole (.float x) with
    | .ok n => flagOfWhole n
    | .error _ => .error .notFlag
  | .decimal d =>
    match readWhole (.decimal d) with
    | .ok n => flagOfWhole n
    | .error _ => .error .notFlag
  | _ => .error .notFlag

/-! ## Numbers -/

/-- The floating-point number nearest to a whole one. -/
def floatOfWhole (n : Int) : Float :=
  (Number.Binary64.nearest (n < 0) n.natAbs 1).toFloat

def readNumber : Value → Except Misfit Float
  | .float x => .ok x
  | .int n => .ok (floatOfWhole n)
  | .bool b => .ok (if b then 1 else 0)
  | .decimal d => .ok d.toBinary.toFloat
  | .text s =>
    match Number.floatOfText? s with
    | some x => .ok x
    | none => .error .unreadableNumber
  | .bytes data =>
    match (Text.decodeStrict? data).bind Number.floatOfText? with
    | some x => .ok x
    | none => .error .unreadableNumber
  | _ => .error .notNumber

/-! ## Places -/

def Misfit.at (place : String) (m : Misfit) : String × String :=
  (place, m.name)

def below (place : String) (misfits : List (String × String)) : List (String × String) :=
  misfits.map fun (inner, name) => (place ++ "." ++ inner, name)

/-- Read entries with text keys. -/
def readEntries (entries : List (Value × Value)) :
    Except (List (String × String)) (Entries Value) :=
  let misfits := entries.filterMap fun (k, _) =>
    match readText k with
    | .ok _ => none
    | .error m => some (m.at (k.display ++ ".[key]"))
  if misfits.isEmpty then
    .ok (Entries.putAll [] (entries.filterMap fun (k, v) => (readText k).toOption.map (·, v)))
  else .error misfits

end QueryClient.Config
