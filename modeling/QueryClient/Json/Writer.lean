import QueryClient.Json.Document
import QueryClient.Number.FloatText
import QueryClient.Text.Quoted
import QueryClient.Text.Split

/-!
# Writing JSON

A document as text in ASCII, with every item and member on a line of its own and two spaces of
indentation for each level. Characters outside ASCII are written by number, those beyond the first
plane as two.
-/

namespace QueryClient.Json

/-! ## Texts -/

/-- A code unit by number. -/
def unitEscape (n : Nat) : List Char :=
  '\\' :: 'u' :: Text.hexDigits 4 n

/-- A character by number: one code unit or two. -/
def numberEscape (c : Char) : List Char :=
  let n := c.toNat
  if n < 0x10000 then unitEscape n
  else
    let beyond := n - 0x10000
    unitEscape (0xd800 + beyond / 0x400) ++ unitEscape (0xdc00 + beyond % 0x400)

/-- A character inside a quoted text. -/
def escapeChar (c : Char) : List Char :=
  match c with
  | '"' => ['\\', '"']
  | '\\' => ['\\', '\\']
  | '\n' => ['\\', 'n']
  | '\r' => ['\\', 'r']
  | '\t' => ['\\', 't']
  | '\x0c' => ['\\', 'f']
  | '\x08' => ['\\', 'b']
  | c => if 0x20 ≤ c.toNat && c.toNat ≤ 0x7e then [c] else numberEscape c

def quotedText (s : String) : String :=
  String.ofList ('"' :: s.toList.flatMap escapeChar ++ ['"'])

/-! ## Numbers -/

/-- A floating-point number; those that are none have names of their own. -/
def numberText (x : Float) : String :=
  if x.isNaN then "NaN"
  else if x.isInf then (if x < 0 then "-Infinity" else "Infinity")
  else Number.floatText x

/-! ## Documents -/

/-- A line end and the indentation of the next line. -/
def lineAt (depth : Nat) : String :=
  "\n" ++ String.ofList (List.replicate (2 * depth) ' ')

/-- Parts between brackets, each on a line of its own. -/
def enclosed (opening closing : String) (depth : Nat) (parts : List String) : String :=
  if parts.isEmpty then opening ++ closing
  else opening ++ lineAt (depth + 1) ++ Text.join ("," ++ lineAt (depth + 1)) parts ++ lineAt depth
    ++ closing

mutual

/-- A document that begins at a depth. -/
def write (depth : Nat) : Document → String
  | .null => "null"
  | .bool b => if b then "true" else "false"
  | .int n => toString n
  | .float x => numberText x
  | .text s => quotedText s
  | .array items => enclosed "[" "]" depth (writeItems (depth + 1) items)
  | .object members => enclosed "\x7b" "\x7d" depth (writeMembers (depth + 1) members)

def writeItems (depth : Nat) : List Document → List String
  | [] => []
  | item :: rest => write depth item :: writeItems depth rest

def writeMembers (depth : Nat) : List (String × Document) → List String
  | [] => []
  | (name, d) :: rest => (quotedText name ++ ": " ++ write depth d) :: writeMembers depth rest

end

end QueryClient.Json
