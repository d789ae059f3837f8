import QueryClient.Json.Document
import QueryClient.Number.FloatText

/-!
# Reading JSON

A reader for JSON texts. Beside the standard it takes the three names of numbers that are not
finite. Of members with the same name the last one counts. Each reading function returns what
follows the part it read.
-/

namespace QueryClient.Json

/-! ## White space and words -/

/-- White space between the parts of a document. -/
def isSpace (c : Char) : Bool :=
  c == ' ' || c == '\t' || c == '\n' || c == '\r'

/-- The text without white space in front. -/
def skipSpace (cs : List Char) : List Char :=
  cs.dropWhile isSpace

/-! ## Strings -/

/-- The value of a hexadecimal digit. -/
def hexValue? (c : Char) : Option Nat :=
  if '0' ≤ c ∧ c ≤ '9' then some (c.toNat - 48)
  else if 'a' ≤ c ∧ c ≤ 'f' then some (c.toNat - 87)
  else if 'A' ≤ c ∧ c ≤ 'F' then some (c.toNat - 55)
  else none

/-- The number that four hexadecimal digits name. -/
def unit? (a b c d : Char) : Option Nat := do
  return (← hexValue? a) * 4096 + (← hexValue? b) * 256 + (← hexValue? c) * 16 + (← hexValue? d)

/-- The first half of a pair that names one character. -/
def isHighHalf (n : Nat) : Bool :=
  0xd800 ≤ n && n < 0xdc00

/-- The second half of a pair that names one character. -/
def isLowHalf (n : Nat) : Bool :=
  0xdc00 ≤ n && n < 0xe000

/-- The character of a number; a half of a pair alone stands for no character and is replaced. -/
def unitChar (n : Nat) : Char :=
  if isHighHalf n || isLowHalf n then '\ufffd' else Char.ofNat n

def pairChar (high low : Nat) : Char :=
  Char.ofNat (0x10000 + (high - 0xd800) * 0x400 + (low - 0xdc00))

/-- The character that a letter after a backslash stands for. -/
def escaped? (c : Char) : Option Char :=
  if c = '"' then some '"'
  else if c = '\\' then some '\\'
  else if c = '/' then some '/'
  else if c = 'b' then some '\x08'
  else if c = 'f' then some '\x0c'
  else if c = 'n' then some '\n'
  else if c = 'r' then some '\r'
  else if c = 't' then some '\t'
  else none

/-- A character in front of a string that was read. -/
def prepend (c : Char) (read : Option (List Char × List Char)) : Option (List Char × List Char) :=
  read.map fun (cs, rest) => (c :: cs, rest)

/-- A string behind its opening quote. -/
def stringRest : List Char → Option (List Char × List Char)
  | [] => none
  | '"' :: rest => some ([], rest)
  | '\\' :: 'u' :: a :: b :: c :: d :: '\\' :: 'u' :: e :: f :: g :: h :: rest =>
    match unit? a b c d, unit? e f g h with
    | some high, some low =>
      if isHighHalf high && isLowHalf low then prepend (pairChar high low) (stringRest rest)
      else prepend (unitChar high)
        (stringRest ('\\' :: 'u' :: e :: f :: g :: h :: rest))
    | some n, none => prepend (unitChar n) (stringRest ('\\' :: 'u' :: e :: f :: g :: h :: rest))
    | none, _ => none
  | '\\' :: 'u' :: a :: b :: c :: d :: rest =>
    match unit? a b c d with
    | some n => prepend (unitChar n) (stringRest rest)
    | none => none
  | '\\' :: c :: rest =>
    match escaped? c with
    | some c => prepend c (stringRest rest)
    | none => none
  | c :: rest => if c < ' ' then none else prepend c (stringRest rest)

/-! ## Numbers -/

def isDigit (c : Char) : Bool :=
  '0' ≤ c && c ≤ '9'

/-- The whole part of a number: a single zero, or digits that do not begin with one. -/
def wholePart (cs : List Char) : List Char :=
  match cs with
  | '0' :: _ => ['0']
  | _ => cs.takeWhile isDigit

/-- The fraction in front, with its point. -/
def fractionPart (cs : List Char) : List Char :=
  match cs with
  | '.' :: rest =>
    let digits := rest.takeWhile isDigit
    if digits.isEmpty then [] else '.' :: digits
  | _ => []

/-- The sign in front of an exponent. -/
def signPart (cs : List Char) : List Char :=
  match cs with
  | c :: _ => if c == '+' || c == '-' then [c] else []
  | [] => []

/-- The exponent in front, with its letter and sign. -/
def exponentPart (cs : List Char) : List Char :=
  match cs with
  | e :: rest =>
    if e == 'e' || e == 'E' then
      let sign := signPart rest
      let digits := (rest.drop sign.length).takeWhile isDigit
      if digits.isEmpty then [] else e :: sign ++ digits
    else []
  | [] => []

/-- A number without sign, and what follows it. -/
def unsigned (negative : Bool) (cs : List Char) : Option (Document × List Char) := do
  let whole := wholePart cs
  if whole.isEmpty then none
  let rest := cs.drop whole.length
  let fraction := fractionPart rest
  let rest := rest.drop fraction.length
  let exponent := exponentPart rest
  let rest := rest.drop exponent.length
  let sign := if negative then ['-'] else []
  let written := String.ofList (sign ++ whole ++ fraction ++ exponent)
  if fraction.isEmpty && exponent.isEmpty then
    return (.int (← Number.integerOfText? written), rest)
  else return (.float (← Number.floatOfText? written), rest)

/-- A number that is not finite, by its name. -/
def namedNumber? (cs : List Char) : Option (Document × List Char) :=
  match cs with
  | 'N' :: 'a' :: 'N' :: rest => some (.float (0.0 / 0.0), rest)
  | 'I' :: 'n' :: 'f' :: 'i' :: 'n' :: 'i' :: 't' :: 'y' :: rest => some (.float (1.0 / 0.0), rest)
  | '-' :: 'I' :: 'n' :: 'f' :: 'i' :: 'n' :: 'i' :: 't' :: 'y' :: rest =>
    some (.float (-1.0 / 0.0), rest)
  | _ => none

def number (cs : List Char) : Option (Document × List Char) :=
  match cs with
  | '-' :: rest => unsigned true rest
  | _ => unsigned false cs

/-! ## Documents -/

/-- A constant or a number. -/
def scalar (cs : List Char) : Option (Document × List Char) :=
  match cs with
  | 'n' :: 'u' :: 'l' :: 'l' :: rest => some (.null, rest)
  | 't' :: 'r' :: 'u' :: 'e' :: rest => some (.bool true, rest)
  | 'f' :: 'a' :: 'l' :: 's' :: 'e' :: rest => some (.bool false, rest)
  | _ => (namedNumber? cs).orElse fun _ => number cs

mutual

/-- A document; `fuel` bounds the number of steps. -/
def document (fuel : Nat) (cs : List Char) : Option (Document × List Char) :=
  match fuel with
  | 0 => none
  | fuel + 1 =>
    match cs with
    | '"' :: rest => (stringRest rest).map fun (s, rest) => (.text (String.ofList s), rest)
    | '[' :: rest =>
      match skipSpace rest with
      | ']' :: rest => some (.array [], rest)
      | rest => (elements fuel rest).map fun (items, rest) => (.array items, rest)
    | '\x7b' :: rest =>
      match skipSpace rest with
      | '\x7d' :: rest => some (.object [], rest)
      | rest => (members fuel [] rest).map fun (ms, rest) => (.object ms, rest)
    | _ => scalar cs

/-- The elements of an array, of which there is at least one, up to its end. -/
def elements (fuel : Nat) (cs : List Char) : Option (List Document × List Char) :=
  match fuel with
  | 0 => none
  | fuel + 1 =>
    match document fuel cs with
    | none => none
    | some (item, rest) =>
      match skipSpace rest with
      | ',' :: rest =>
        (elements fuel (skipSpace rest)).map fun (items, rest) => (item :: items, rest)
      | ']' :: rest => some ([item], rest)
      | _ => none

/-- The members of an object, of which there is at least one more, up to its end. -/
def members (fuel : Nat) (before : List (String × Document)) (cs : List Char) :
    Option (List (String × Document) × List Char) :=
  match fuel with
  | 0 => none
  | fuel + 1 =>
    match cs with
    | '"' :: rest =>
      match stringRest rest with
      | none => none
      | some (name, rest) =>
        match skipSpace rest with
        | ':' :: rest =>
          match document fuel (skipSpace rest) with
          | none => none
          | some (v, rest) =>
            let ms := Entries.put (String.ofList name) v before
            match skipSpace rest with
            | ',' :: rest => members fuel ms (skipSpace rest)
            | '\x7d' :: rest => some (ms, rest)
            | _ => none
        | _ => none
    | _ => none

end

/-- The document that a text holds, with nothing but white space around it. Each step of reading
that takes no character is followed by one that does, which bounds the number of steps. -/
def read? (s : String) : Option Document :=
  match document (2 * s.length + 2) (skipSpace s.toList) with
  | some (d, rest) => if (skipSpace rest).isEmpty then some d else none
  | none => none

end QueryClient.Json
