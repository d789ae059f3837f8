import QueryClient.Json.Reader

/-!
# Progress summaries

The server reports progress in a header that holds a JSON object. A header that was sent more than
once arrives with its values joined, and the last object counts.
-/

namespace QueryClient.Result

def summaryHeader : String :=
  "X-ClickHouse-Summary"

/-- The text from its last opening brace on. -/
def fromLastBrace (cs : List Char) : Option (List Char) :=
  let after := cs.reverse.takeWhile (· != '\x7b')
  if after.length == cs.length then none else some ('\x7b' :: after.reverse)

/-- The members of the summary in a header; none when it is missing, malformed or empty. -/
def summary? (header : Option String) : Option (List (String × Document)) := do
  let cs ← fromLastBrace (← header).toList
  match Json.read? (String.ofList cs) with
  | some (.object (m :: ms)) => some (m :: ms)
  | _ => none

end QueryClient.Result
