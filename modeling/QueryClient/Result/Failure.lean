import QueryClient.Fault
import QueryClient.Http.Response
import QueryClient.Text.Blank
import QueryClient.Text.Word

/-!
# Failed requests

How a request that failed is reported: in one line, with the status, the body and the SQL it
carried. The engine's own error code is read from the body.
-/

namespace QueryClient

/-! ## Error codes -/

/-- The number of a run of digits in front. -/
def leadingNumber? (cs : List Char) : Option Nat :=
  let digits := cs.takeWhile fun c => (Text.decimalValue? c).isSome
  if digits.isEmpty then none
  else some (digits.foldl (fun n c => n * 10 + (Text.decimalValue? c).getD 0) 0)

/-- The number behind the word `Code:`, when the text starts with both. -/
def codeAt? : List Char → Option Nat
  | 'C' :: 'o' :: 'd' :: 'e' :: ':' :: rest => leadingNumber? (rest.dropWhile Text.isBlank)
  | _ => none

/-- The first code in a text. -/
def findCode? : List Char → Option Nat
  | [] => none
  | c :: rest => (codeAt? (c :: rest)).orElse fun _ => findCode? rest

def engineCode? (body : String) : Option Nat :=
  findCode? body.toList

namespace Result

/-- What went wrong, in one line: why no response arrived, the first line of the body, or the
status. -/
def failureText (r : Http.Response) : String :=
  match r.error with
  | some error => "Transport failure: " ++ error
  | none =>
    match Text.lines (Text.trim r.text) with
    | line :: _ => line
    | [] => "HTTP " ++ toString r.status ++ " without body"

/-- The report of a failed request. -/
def failure (r : Http.Response) (sql : Option String) : Fault :=
  .server { text := failureText r, status := r.status, body := r.text, sql }

end Result

end QueryClient
