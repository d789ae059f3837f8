import QueryClient.Value.Display
import QueryClient.Text.Utf8

/-!
# Literals

The SQL text of a value: numbers as they are, texts between single quotes with six characters
escaped, lists in brackets, raw SQL verbatim.
-/

namespace QueryClient.Sql

/-- The letter that stands for a character after a backslash, for those that are escaped. -/
def escapeLetter? (c : Char) : Option Char :=
  if c = '\\' then some '\\'
  else if c = '\'' then some '\''
  else if c = '\n' then some 'n'
  else if c = '\t' then some 't'
  else if c = '\r' then some 'r'
  else if c = '\x00' then some '0'
  else none

/-- One character of a string literal. -/
def escapeChar (c : Char) : List Char :=
  match escapeLetter? c with
  | some letter => ['\\', letter]
  | none => [c]

/-- The characters of a string literal. -/
def quoteChars (cs : List Char) : List Char :=
  '\'' :: cs.flatMap escapeChar ++ ['\'']

def quoteText (s : String) : String :=
  String.ofList (quoteChars s.toList)

mutual

def literal : Value → String
  | .raw inner => inner.display
  | .null => "NULL"
  | .bool b => if b then "1" else "0"
  | .int n => toString n
  | .float x => Number.floatText x
  | .decimal d => d.text
  | .member inner => literal inner
  | .datetime d => quoteText d.stamp
  | .date d => quoteText d.iso
  | .bytes data | .bytearray data => quoteText (Text.decodeLenient data)
  | .list items | .tuple items | .set items => "[" ++ literalItems items ++ "]"
  | .text s => quoteText s
  | .dict entries => quoteText (Value.dict entries).display
  | .time t => quoteText t.iso
  | .uuid s => quoteText s
  | .statement s => quoteText s.toSql
  | .missing => quoteText Value.missing.display
  | .query => quoteText Value.query.display
  | .callback => quoteText Value.callback.display

/-- Literals with commas between. -/
def literalItems : List Value → String
  | [] => ""
  | [v] => literal v
  | v :: rest => literal v ++ ", " ++ literalItems rest

end

end QueryClient.Sql
