import QueryClient.Json.Complaint
import QueryClient.Result.Failure
import QueryClient.Result.Summary
import QueryClient.Value.Whole

/-!
# Results

The answer to a statement: its rows, what the server says about them, and their number. A result is
read from the body each time; a failed request has none.
-/

namespace QueryClient

/-- A response together with the statement that it answers. -/
structure Result where
  response : Http.Response
  /-- The SQL that was sent. -/
  sql : Option String := none
  /-- The format that was asked for. -/
  format : Option String := none

namespace Result

/-- The request failed. -/
def isError (r : Result) : Bool :=
  !r.response.isOk

/-- The report of the failure. -/
def fault (r : Result) : Fault :=
  failure r.response r.sql

/-- The progress summary that the server sent. -/
def summary (r : Result) : Option (List (String × Document)) :=
  summary? (r.response.header? summaryHeader)

/-! ## Decoding -/

/-- The documents of a text with one on each line; blank lines are left out. -/
def lineDocuments : List String → Except Fault (List Document)
  | [] => .ok []
  | line :: rest =>
    if Text.isBlankText line then lineDocuments rest
    else match Json.read? line with
      | some d => do return d :: (← lineDocuments rest)
      | none => .error .malformedJson

/-- The failure of a body that is not JSON; it says what is wrong with the body. -/
def notJson (r : Result) : Fault :=
  .server
    { text := "Response is not valid JSON (" ++ r.format.getD "None" ++ " format): "
        ++ (Json.complaint r.response.text).describe r.response.text
      status := r.response.status
      body := r.response.text
      sql := r.sql }

/-- The members of the result. A body that is no object holds the data only. -/
def members (r : Result) : Except Fault (List (String × Document)) :=
  if r.isError then .error r.fault
  else
    let text := r.response.text
    if Text.isBlankText text then .ok []
    else if r.format == some "JSONEachRow" then do
      return [("data", .array (← lineDocuments (Text.lines text)))]
    else match Json.read? text with
      | some (.object members) => .ok members
      | some d => .ok [("data", d)]
      | none => .error r.notJson

/-- The rows in a member: items of an array, names of an object, characters of a text. -/
def rowsOf : Document → Except Fault (List Document)
  | .array items => .ok items
  | .object members => .ok (members.map fun (name, _) => .text name)
  | .text s => .ok (s.toList.map fun c => .text (String.singleton c))
  | _ => .error .wrongKind

def rows (r : Result) : Except Fault (List Document) := do
  rowsOf ((Entries.find? "data" (← r.members)).getD (.array []))

/-- A member of a row by its name. -/
def cell (key : Value) : Document → Except Fault Document
  | .object members =>
    match key with
    | .text name => .ok ((Entries.find? name members).getD .null)
    | _ => if key.isHashable then .ok .null else .error .wrongKind
  | _ => .error .lacksMember

/-- The first row, or the cell of it with the given name; null when there are no rows. -/
def first (r : Result) (key : Value) : Except Fault Document := do
  match ← r.rows with
  | [] => return .null
  | row :: _ => if key.isNull then return row else cell key row

/-- The names in the first row. -/
def keys (r : Result) : Except Fault (List String) := do
  match ← r.rows with
  | [] => return []
  | .object members :: _ => return members.map (·.1)
  | _ => throw .lacksMember

/-! ## What the server says -/

def member (r : Result) (name : String) (default : Document) : Except Fault Document := do
  return (Entries.find? name (← r.members)).getD default

def columns (r : Result) : Except Fault Document :=
  r.member "meta" (.array [])

def totals (r : Result) : Except Fault Document :=
  r.member "totals" .null

/-- The extreme values. -/
def extremes (r : Result) : Except Fault Document :=
  r.member "extremes" .null

/-- Figures on the execution. -/
def statistics (r : Result) : Except Fault Document :=
  r.member "statistics" .null

/-! ## Counts -/

/-- The number of rows, as the server counts them if it does. -/
def countRows (r : Result) : Except Fault Int := do
  let members ← r.members
  let rows ← r.rows
  ((Entries.find? "rows" members).getD (.int rows.length)).toValue.toWhole

/-- The number of rows that there would be without a bound on them. -/
def countAll (r : Result) : Except Fault Int := do
  let members ← r.members
  let counted := (Entries.find? "rows" members).getD (.int 0)
  ((Entries.find? "rows_before_limit_at_least" members).getD counted).toValue.toWhole

end Result

end QueryClient
