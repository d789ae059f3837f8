import QueryClient.Json.Document
import QueryClient.Number.Decimal

/-!
# JSON as it is written

The ways in which a document can be written: with any white space between its parts, with any
letter of a string escaped or not, and with numbers in any of their forms. Each has a text and the
document that it stands for.
-/

namespace QueryClient.Json

/-- White space between the parts of a document. -/
structure Gap where
  chars : List Char
  areSpaces : ∀ c ∈ chars, c ∈ [' ', '\t', '\n', '\r']

/-! ## Strings -/

/-- The letters that stand for a character behind a backslash. -/
def shortEscapes : List (Char × Char) :=
  [('"', '"'), ('\\', '\\'), ('/', '/'), ('b', '\x08'), ('f', '\x0c'), ('n', '\n'), ('r', '\r'),
   ('t', '\t')]

def hexDigit (upper : Bool) (n : Nat) : Char :=
  Char.ofNat (if n < 10 then 48 + n else if upper then 55 + n else 87 + n)

/-- A number below `0x10000` behind a backslash, in four digits that may be capital letters. -/
def hexEscape (upper : Nat → Bool) (n : Nat) : List Char :=
  ['\\', 'u', hexDigit (upper 0) (n / 4096), hexDigit (upper 1) (n / 256 % 16),
   hexDigit (upper 2) (n / 16 % 16), hexDigit (upper 3) (n % 16)]

/-- A character of a string as it is written. -/
inductive Letter where
  /-- The character itself, which is no control character. -/
  | plain (c : Char) (h : ' ' ≤ c ∧ c ≠ '"' ∧ c ≠ '\\')
  /-- A letter behind a backslash. -/
  | short (mark c : Char) (h : (mark, c) ∈ shortEscapes)
  /-- The number of the character, or the two numbers that UTF-16 has for it. -/
  | coded (c : Char) (upper : Nat → Bool)

namespace Letter

def value : Letter → Char
  | plain c _ | short _ c _ | coded c _ => c

def text : Letter → List Char
  | plain c _ => [c]
  | short mark _ _ => ['\\', mark]
  | coded c upper =>
    if c.toNat < 0x10000 then hexEscape upper c.toNat
    else hexEscape upper (0xd800 + (c.toNat - 0x10000) / 0x400)
      ++ hexEscape (fun i => upper (i + 4)) (0xdc00 + (c.toNat - 0x10000) % 0x400)

end Letter

/-- A string in its quotes. -/
def stringText (letters : List Letter) : List Char :=
  '"' :: letters.flatMap Letter.text ++ ['"']

def lettersValue (letters : List Letter) : String :=
  String.ofList (letters.map Letter.value)

/-! ## Numbers -/

def digitChar (d : Fin 10) : Char :=
  Char.ofNat (48 + d.val)

/-- The number that digits stand for. -/
def digitsNumber (ds : List (Fin 10)) : Nat :=
  ds.foldl (fun (n : Nat) (d : Fin 10) => n * 10 + d.val) 0

/-- The power of ten that a number is multiplied with. -/
structure Exponent where
  /-- Written with a capital letter. -/
  upper : Bool
  /-- The sign, if there is one; true for minus. -/
  sign : Option Bool
  digits : List (Fin 10)
  digits_ne_nil : digits ≠ []

namespace Exponent

def signChars (e : Exponent) : List Char :=
  match e.sign with
  | none => []
  | some negative => if negative then ['-'] else ['+']

def text (e : Exponent) : List Char :=
  (if e.upper then 'E' else 'e') :: (e.signChars ++ e.digits.map digitChar)

def value (e : Exponent) : Int :=
  if e.sign = some true then -(digitsNumber e.digits : Int) else digitsNumber e.digits

end Exponent

structure Numeral where
  negative : Bool
  /-- The digits in front of the point. -/
  whole : List (Fin 10)
  /-- They begin with no zero but a single one. -/
  leads : whole = [0] ∨ ∃ d ds, d ≠ 0 ∧ whole = d :: ds
  /-- The digits behind the point, if there is one. -/
  fraction : List (Fin 10)
  exponent : Option Exponent

namespace Numeral

def signChars (n : Numeral) : List Char :=
  if n.negative then ['-'] else []

def fractionText (n : Numeral) : List Char :=
  if n.fraction = [] then [] else '.' :: n.fraction.map digitChar

def exponentText (n : Numeral) : List Char :=
  n.exponent.elim [] Exponent.text

def text (n : Numeral) : List Char :=
  n.signChars ++ n.whole.map digitChar ++ n.fractionText ++ n.exponentText

/-- A whole number when there are digits only, else the binary number nearest to the decimal. -/
def value (n : Numeral) : Document :=
  if n.fraction = [] ∧ n.exponent = none then
    .int (if n.negative then -(digitsNumber n.whole : Int) else digitsNumber n.whole)
  else
    .float (Number.Decimal.finite n.negative (digitsNumber (n.whole ++ n.fraction))
      (n.exponent.elim 0 Exponent.value - n.fraction.length)).toBinary.toFloat

end Numeral

/-! ## Documents -/

mutual

/-- A document as it is written. -/
inductive Written where
  | null
  | bool (b : Bool)
  | number (n : Numeral)
  | text (letters : List Letter)
  | emptyArray (inside : Gap)
  | array (before : Gap) (items : Items)
  | emptyObject (inside : Gap)
  | object (before : Gap) (members : Members)

/-- The elements of an array up to its closing bracket, of which there is at least one. -/
inductive Items where
  | last (item : Written) (after : Gap)
  | more (item : Written) (after : Gap) (before : Gap) (rest : Items)

/-- The members of an object up to its closing brace, of which there is at least one. -/
inductive Members where
  | last (name : List Letter) (afterName beforeItem : Gap) (item : Written) (after : Gap)
  | more (name : List Letter) (afterName beforeItem : Gap) (item : Written) (after : Gap)
    (before : Gap) (rest : Members)

end

mutual

def Written.chars : Written → List Char
  | .null => ['n', 'u', 'l', 'l']
  | .bool true => ['t', 'r', 'u', 'e']
  | .bool false => ['f', 'a', 'l', 's', 'e']
  | .number n => n.text
  | .text letters => stringText letters
  | .emptyArray inside => '[' :: (inside.chars ++ [']'])
  | .array before items => '[' :: (before.chars ++ items.chars)
  | .emptyObject inside => '\x7b' :: (inside.chars ++ ['\x7d'])
  | .object before members => '\x7b' :: (before.chars ++ members.chars)

def Items.chars : Items → List Char
  | .last item after => item.chars ++ (after.chars ++ [']'])
  | .more item after before rest =>
    item.chars ++ (after.chars ++ ',' :: (before.chars ++ rest.chars))

def Members.chars : Members → List Char
  | .last name afterName beforeItem item after =>
    stringText name ++ (afterName.chars ++ ':' :: (beforeItem.chars ++ (item.chars
      ++ (after.chars ++ ['\x7d']))))
  | .more name afterName beforeItem item after before rest =>
    stringText name ++ (afterName.chars ++ ':' :: (beforeItem.chars ++ (item.chars
      ++ (after.chars ++ ',' :: (before.chars ++ rest.chars)))))

end

mutual

/-- The document that is written. Of members with the same name the last one counts. -/
def Written.value : Written → Document
  | .null => .null
  | .bool b => .bool b
  | .number n => n.value
  | .text letters => .text (lettersValue letters)
  | .emptyArray _ => .array []
  | .array _ items => .array items.values
  | .emptyObject _ => .object []
  | .object _ members => .object (Entries.putAll [] members.entries)

def Items.values : Items → List Document
  | .last item _ => [item.value]
  | .more item _ _ rest => item.value :: rest.values

def Members.entries : Members → List (String × Document)
  | .last name _ _ item _ => [(lettersValue name, item.value)]
  | .more name _ _ item _ _ rest => (lettersValue name, item.value) :: rest.entries

end

def Written.isObject : Written → Bool
  | .emptyObject _ | .object _ _ => true
  | _ => false

end QueryClient.Json
