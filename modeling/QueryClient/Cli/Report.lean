import QueryClient.Connection.Terminal
import QueryClient.Console.Screen
import QueryClient.Json.Writer

/-!
# Showing results

A result is shown as its format asks: as a table with the number of its rows, as documents laid
out, or as the server sent it. What was printed before something goes wrong stays printed.
-/

namespace QueryClient.Cli

open Console

/-! ## Printing -/

/-- What was printed, and what went wrong after that. -/
structure Printed where
  text : String := ""
  fault : Option Fault := none

/-- Print texts until one of them cannot be made. -/
def Printed.inTurn : List (Except Fault String) → Printed
  | [] => {}
  | .error fault :: _ => { fault }
  | .ok text :: rest =>
    let later := inTurn rest
    { later with text := text ++ later.text }

/-! ## Tables -/

/-- The names of the first row; none when there is no row. -/
def namesOf (row : Document) : Except Fault (List Value) :=
  match row with
  | .object members => .ok (members.map fun (name, _) => .text name)
  | d => if d.toValue.isTruthy then .error .lacksMember else .ok []

/-- The columns of a result: those that the server names, or else the names of the first row. -/
def columnsOf (r : Result) : Except Fault (List Value) := do
  let named ← (← Result.rowsOf (← r.columns)).mapM (Result.requiredCell "name")
  if named.isEmpty then namesOf (← r.first .null) else return named

/-- The head of a column: it must be text. -/
def headOf : Value → Cell
  | .text s => plainText s
  | _ => .error .unshowable

def cellsOf (columns : List Value) (row : Document) : Except Fault (List Cell) :=
  columns.mapM fun column => do return plainText (← Result.cell column row).toValue.display

def tableOf (r : Result) : Except Fault Table := do
  let columns ← columnsOf r
  return { header := columns.map headOf, rows := ← (← r.rows).mapM (cellsOf columns) }

/-- The line below the table. -/
def countLine (r : Result) : Except Fault String := do
  printedMarkup ("[dim]" ++ toString (← r.countRows) ++ " row(s)[/dim]")

/-! ## Results -/

def showResult (r : Result) : Printed :=
  if r.isError then { fault := some r.fault }
  else if r.format == some "JSON" then
    .inTurn [tableOf r >>= printedTable, countLine r]
  else if r.format == some "JSONEachRow" then
    .inTurn [do return printedCode (Json.write 0 (.array (← r.rows)))]
  else { text := printedText r.response.text }

end QueryClient.Cli
