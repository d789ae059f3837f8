import QueryClient.Value
import QueryClient.Text.Split

/-!
# Texts of values

A value has two texts: the plain one, which is what a text shows of itself, and the one inside a
container or a message, where texts stand between quotes.
-/

namespace QueryClient.Value

/-! ## Bytes -/

/-- One byte between quotes of the given kind. -/
def shownByte (quote : Char) (b : UInt8) : List Char :=
  let c := Char.ofNat b.toNat
  if c = quote || c = '\\' then ['\\', c]
  else if c = '\t' then ['\\', 't']
  else if c = '\n' then ['\\', 'n']
  else if c = '\r' then ['\\', 'r']
  else if b < 0x20 || 0x7f ≤ b then '\\' :: 'x' :: Text.hexDigits 2 b.toNat
  else [c]

/-- Bytes between quotes. -/
def shownBytes (data : List UInt8) : String :=
  let quote := if data.contains 39 && !data.contains 34 then '"' else '\''
  "b" ++ String.ofList (quote :: data.flatMap (shownByte quote) ++ [quote])

/-! ## Dates -/

/-- Parts between parentheses after a name. -/
def shownCall (name : String) (parts : List String) : String :=
  name ++ "(" ++ Text.join ", " parts ++ ")"

/-- A distance from universal time: whole days, and seconds that are not negative. -/
def shownOffset (seconds : Int) : String :=
  if seconds == 0 then "datetime.timezone.utc"
  else
    let days := seconds / 86400
    let rest := seconds % 86400
    shownCall "datetime.timezone" [shownCall "datetime.timedelta"
      ((if days == 0 then [] else ["days=" ++ toString days])
        ++ if rest == 0 then [] else ["seconds=" ++ toString rest])]

/-- The parts of a time of day that are shown: seconds and their fractions only if there are any. -/
def shownClock (t : TimeOfDay) : List String :=
  let parts :=
    if t.microsecond != 0 then [t.hour, t.minute, t.second, t.microsecond]
    else if t.second != 0 then [t.hour, t.minute, t.second]
    else [t.hour, t.minute]
  parts.map toString ++ (t.offset.map fun seconds => "tzinfo=" ++ shownOffset seconds).toList

def shownDate (d : Date) : List String :=
  [d.year, d.month, d.day].map toString

/-! ## Values -/

mutual

/-- The plain text of a value. -/
def display : Value → String
  | null => "None"
  | bool b => if b then "True" else "False"
  | int n => toString n
  | float x => Number.floatText x
  | decimal d => d.text
  | text s => s
  | raw inner => display inner
  | list items => "[" ++ shownItems items ++ "]"
  | tuple [item] => "(" ++ shown item ++ ",)"
  | tuple items => "(" ++ shownItems items ++ ")"
  | set [] => "set()"
  | set items => "\x7b" ++ shownItems items ++ "\x7d"
  | dict entries => "\x7b" ++ shownEntries entries ++ "\x7d"
  | date d => d.iso
  | datetime d => d.isoWith " "
  | time t => t.iso
  | bytes data => shownBytes data
  | bytearray data => "bytearray(" ++ shownBytes data ++ ")"
  | uuid s => s
  | member inner => display inner
  | statement s => s.toSql
  | missing => "<missing>"
  | query => "<query>"
  | callback => "<callback>"

/-- The text of a value inside a container or a message. -/
def shown : Value → String
  | text s => Text.quoted s
  | decimal d => "Decimal('" ++ d.text ++ "')"
  | raw inner => "Expression(" ++ shown inner ++ ")"
  | uuid s => "UUID('" ++ s ++ "')"
  | date d => shownCall "datetime.date" (shownDate d)
  | datetime d => shownCall "datetime.datetime" (shownDate d.date ++ shownClock d.time)
  | time t => shownCall "datetime.time" (shownClock t)
  | statement s => s.shown
  | null => "None"
  | bool b => if b then "True" else "False"
  | int n => toString n
  | float x => Number.floatText x
  | list items => "[" ++ shownItems items ++ "]"
  | tuple [item] => "(" ++ shown item ++ ",)"
  | tuple items => "(" ++ shownItems items ++ ")"
  | set [] => "set()"
  | set items => "\x7b" ++ shownItems items ++ "\x7d"
  | dict entries => "\x7b" ++ shownEntries entries ++ "\x7d"
  | bytes data => shownBytes data
  | bytearray data => "bytearray(" ++ shownBytes data ++ ")"
  | member inner => shown inner
  | missing => "<missing>"
  | query => "<query>"
  | callback => "<callback>"

/-- The texts of values with commas between. -/
def shownItems : List Value → String
  | [] => ""
  | [v] => shown v
  | v :: rest => shown v ++ ", " ++ shownItems rest

/-- The texts of entries with commas between. -/
def shownEntries : List (Value × Value) → String
  | [] => ""
  | [(k, v)] => shown k ++ ": " ++ shown v
  | (k, v) :: rest => shown k ++ ": " ++ shown v ++ ", " ++ shownEntries rest

end

/-- The statement over the text of a value; a value that counts as false has none. -/
def toStatement (v : Value) : Except Fault Sql.Statement :=
  if v.isTruthy then Sql.Statement.ofText v.display else .error .emptyStatement

end QueryClient.Value
