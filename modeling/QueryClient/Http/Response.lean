import QueryClient.Entries
import QueryClient.Text.Case
import QueryClient.Text.Utf8

/-!
# Responses

What came back for a request. A status of zero means that no response arrived, and then the error
says why.
-/

namespace QueryClient.Http

structure Response where
  status : Int
  headers : Entries String := []
  body : List UInt8 := []
  error : Option String := none
deriving Repr, DecidableEq, Inhabited

def isSuccess (status : Int) : Bool :=
  200 ≤ status && status < 300

namespace Response

/-- The request succeeded. -/
def isOk (r : Response) : Bool :=
  r.error.isNone && isSuccess r.status

def text (r : Response) : String :=
  Text.decodeLenient r.body

/-- A header: by its exact name if there is one, else by its name in any case. -/
def header? (r : Response) (name : String) : Option String :=
  match r.headers.find? name with
  | some v => some v
  | none =>
    (List.find? (fun (k, _) => Text.lower k == Text.lower name) r.headers).map (·.2)

end Response

end QueryClient.Http
