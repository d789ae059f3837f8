import QueryClient.Fault
import QueryClient.Sql.OutputFormat
import QueryClient.Text.Quoted

/-!
# Statements with an output format

A statement is SQL text together with the output format that its sender wants. The format is put at
the end of the text unless the text names one itself, which then wins. The resolved text is kept
until another format is set.
-/

namespace QueryClient.Sql

/-- SQL text with a wanted output format. -/
structure Statement where
  /-- The text as given. -/
  text : String
  /-- The format wanted, or the one found in the text once that has been looked at. -/
  wanted : Option String := none
  /-- The text with its format, once it has been worked out. -/
  resolved : Option String := none
deriving Repr, DecidableEq

namespace Statement

/-- A statement over a text that is not blank. -/
def ofText (text : String) : Except Fault Statement :=
  if Text.isBlankText text then .error .emptyStatement else .ok ⟨text, none, none⟩

/-- The same text with another wanted format. -/
def setFormat (s : Statement) (format : Option String) : Statement :=
  { s with wanted := format, resolved := none }

/-- The text without white space around it and without one semicolon at its end. -/
def body (text : String) : String :=
  let cs := Text.trimChars text.toList
  match cs.reverse with
  | ';' :: rest => String.ofList (Text.trimEndChars rest.reverse)
  | _ => String.ofList cs

/-- The final text and the format it has, for a wanted format. -/
def resolve (text format : String) : String × String :=
  let sql := body text
  match findFormat? sql with
  | some found => (sql, found)
  | none => (sql ++ " FORMAT " ++ format, format)

/-- The text to send; working it out is remembered. -/
def render (s : Statement) : String × Statement :=
  match s.wanted, s.resolved with
  | none, _ => (s.text, s)
  | some _, some sql => (sql, s)
  | some format, none =>
    let (sql, found) := resolve s.text format
    (sql, { s with wanted := some found, resolved := some sql })

/-- The text to send. -/
def toSql (s : Statement) : String :=
  s.render.1

/-- The statement after its text has been worked out. -/
def settled (s : Statement) : Statement :=
  s.render.2

/-- The format of the text to send. -/
def format (s : Statement) : Option String :=
  s.settled.wanted

/-- The statement for a message: text and wanted format as they stand. -/
def shown (s : Statement) : String :=
  "StatementText(" ++ Text.quoted s.text ++ ", format="
    ++ (match s.wanted with
      | some format => Text.quoted format
      | none => "None") ++ ")"

/-- What a call by its name does to a statement, and what it answers. -/
def call (s : Statement) : String → Option String → Statement × Option String
  | "set_format", format => (s.setFormat format, none)
  | "to_sql", _ | "str", _ => (s.settled, some s.toSql)
  | "get_format", _ | "format", _ => (s.settled, s.format)
  | "text", _ => (s, some s.text)
  | _, _ => (s, some s.shown)

end Statement

end QueryClient.Sql
