import QueryClient.Config.Profile
import QueryClient.Config.Settings
import QueryClient.Http.Queue
import QueryClient.Http.QueryString
import QueryClient.Json.Document
import QueryClient.Value.Whole

/-!
# Connections

A connection to one server: where it is, how the caller identifies itself, the settings that go
with every request, and the queue that the requests are executed on.
-/

namespace QueryClient

open Config (Settings)

/-- Who is told about progress. -/
inductive Listener where
  /-- A listener that takes what it is told. -/
  | attentive
  /-- A listener that fails when it is told something. -/
  | failing
  /-- A listener that cannot be told anything. -/
  | absent
deriving Repr, DecidableEq

/-- What a listener did. -/
inductive Heard where
  | summary (members : List (String × Document))
  | failed

structure Connection where
  host : Value := .text "127.0.0.1"
  port : Value := .int 8123
  username : Value := .text "default"
  password : Value := .null
  authMethod : AuthMethod := .header
  connectTimeout : Value := .int 5
  /-- The certificates to trust. -/
  certificates : Value := .null
  verbose : Bool := false
  listener : Option Listener := none
  /-- What the listeners did. -/
  heard : List Heard := []
  settings : Settings := {}
  queue : Http.Queue := {}
  store : Files.Store := {}
  /-- What compresses the bodies that go to compressed files. -/
  deflater : Gzip.Compressor (List (List UInt8)) := .remembering (.patient Gzip.stream)
  /-- Requests in the queue wait. -/
  held : Bool := false

namespace Connection

/-! ## Opening -/

def setOption (c : Connection) (name : String) (v : Value) : Except Fault Connection :=
  match name with
  | "host" => .ok { c with host := v }
  | "port" => .ok { c with port := v }
  | "username" => .ok { c with username := v }
  | "password" => .ok { c with password := v }
  | "connect_timeout" => .ok { c with connectTimeout := v }
  | "auth_method" =>
    match AuthMethod.ofValue? v with
    | some authMethod => .ok { c with authMethod }
    | none => .error .unusable
  | "database" => do return { c with settings := ← c.settings.setOption .database v }
  | _ => .error .wrongKind

def optionNames : List String :=
  ["host", "port", "database", "username", "password", "auth_method", "connect_timeout"]

/-- Set options of a connection. Unknown ones are told first, a database that does not fit last. -/
def setOptions (c : Connection) (options : Entries Value) : Except Fault Connection := do
  if options.any fun (name, _) => !optionNames.contains name then throw .wrongKind
  let last := options.filter (·.1 == "database")
  (options.remove "database" ++ last).foldlM (fun c (name, v) => c.setOption name v) c

/-! ## Addresses -/

/-- The host has a port or a path of its own. -/
def isPlainHost (host : String) : Bool :=
  !host.toList.contains '/' && !host.toList.contains ':'

/-- The address of the server. The port is left out when the host has one or when it is not
positive. -/
def uri (c : Connection) : Except Fault String := do
  let scheme := if c.settings.https then "https://" else "http://"
  let .text host := c.host | throw .wrongKind
  let address := scheme ++ host
  if !isPlainHost host then return address
  let port ← if c.port.isTruthy then c.port.toWhole else pure 0
  return if 0 < port then address ++ ":" ++ c.port.display else address

/-- The address of a request with parameters of its own and without some of the usual ones. -/
def url (c : Connection) (own : List (String × Value)) (excluded : List String) :
    Except Fault String := do
  return (← c.uri) ++ "?" ++ Http.queryString (c.settings.effectiveParameters own excluded)

/-! ## Requests -/

/-- A request with everything that all requests of the connection share. -/
def newRequest (c : Connection) : Http.Request :=
  let r : Http.Request := {}
  let r :=
    match c.authMethod with
    | .header => r.authByHeaders c.username c.password
    | .basic => r.authByBasic c.username c.password
    | .queryString => r
  let r := if c.settings.httpCompression then r.httpCompression true else r
  let r := if (c.settings.sessionId.getD "").isEmpty then r else r.setPersistent
  { r with
    verify := if c.certificates.isTruthy then c.certificates else r.verify
    timeout := .int c.settings.maxExecutionTime
    connectTimeout := c.connectTimeout
    verbose := c.verbose }

/-- The credentials as parameters, when they are sent that way. -/
def authParameters (c : Connection) : List (String × Value) :=
  match c.authMethod with
  | .queryString => [("user", c.username), ("password", Http.Request.passwordOr c.password)]
  | _ => []

end Connection

end QueryClient
