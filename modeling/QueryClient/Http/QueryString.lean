import QueryClient.Entries
import QueryClient.Text.Utf8
import QueryClient.Value.Display

/-!
# Query strings

Parameters in a URL: names and values in UTF-8, joined by `=` and `&`. A space becomes a plus, and
every byte that is not one of the unreserved characters is written as a percent sign and two
hexadecimal digits.
-/

namespace QueryClient.Http

/-- A character that stands for itself in a URL. -/
def isUnreserved (c : Char) : Bool :=
  ('a' ≤ c && c ≤ 'z') || ('A' ≤ c && c ≤ 'Z') || ('0' ≤ c && c ≤ '9') ||
    c == '_' || c == '.' || c == '-' || c == '~'

def escapeByte (b : UInt8) : List Char :=
  let c := Char.ofNat b.toNat
  if isUnreserved c then [c]
  else if c == ' ' then ['+']
  else '%' :: (Text.hexDigits 2 b.toNat).map Char.toUpper

def escapeBytes (data : List UInt8) : String :=
  String.ofList (data.flatMap escapeByte)

/-- The bytes that a parameter's value is sent as. -/
def parameterBytes : Value → List UInt8
  | .bytes data => data
  | v => Text.encode v.display

def queryString (parameters : Entries Value) : String :=
  Text.join "&" (parameters.map fun (name, v) =>
    escapeBytes (Text.encode name) ++ "=" ++ escapeBytes (parameterBytes v))

end QueryClient.Http
