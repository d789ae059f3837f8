import QueryClient.Config.Record

/-!
# Connection profiles

What a connection is configured with: where the server is, who connects, how long things may take,
and the engine settings to begin with.
-/

namespace QueryClient

/-- The ways in which credentials are sent. -/
inductive AuthMethod where
  | header
  | queryString
  | basic
deriving Repr, DecidableEq

namespace AuthMethod

def name : AuthMethod → String
  | header => "header"
  | queryString => "query_string"
  | basic => "basic_auth"

def ofName? (s : String) : Option AuthMethod :=
  [header, queryString, basic].find? (·.name == s)

/-- The way that a value names. -/
def ofValue? : Value → Option AuthMethod
  | .text s | .member (.text s) => ofName? s
  | _ => none

end AuthMethod

namespace Config

/-- The configuration of a connection. -/
structure Profile where
  driver : String := "http"
  host : String := "127.0.0.1"
  port : Int := 8123
  database : String := "default"
  username : String := "default"
  password : Option String := none
  https : Bool := false
  authMethod : AuthMethod := .header
  /-- The bound on connecting, in seconds. -/
  connectTimeout : Value := .int 5
  /-- The bound on the execution time, in seconds. -/
  timeout : Int := 20
  /-- The certificates to trust. -/
  certificates : Option String := none
  /-- The user cannot change settings. -/
  readonlyUser : Bool := false
  /-- Further engine settings. -/
  settings : Entries Value := []

namespace Profile

/-- Read a way of sending credentials. -/
def readAuthMethod (v : Value) : Except Misfit AuthMethod :=
  match AuthMethod.ofValue? v with
  | some method => .ok method
  | none => .error .notChoice

/-- The fields of where the server is and who connects. -/
def addressFields : List (Field Profile) :=
  [.of "driver" readText fun p driver => { p with driver },
   .of "host" readText fun p host => { p with host },
   .of "port" readWhole fun p port => { p with port },
   .of "database" readText fun p database => { p with database },
   .of "username" readText fun p username => { p with username },
   .of "password" readText? fun p password => { p with password },
   .of "https" readFlag fun p https => { p with https }]

def fields : List (Field Profile) :=
  addressFields ++
  [.of "auth_method" readAuthMethod fun p authMethod => { p with authMethod },
   .of "connect_timeout" readNumber fun p seconds => { p with connectTimeout := .float seconds },
   .of "timeout" readWhole fun p timeout => { p with timeout },
   .of "ssl_ca" readText? fun p certificates => { p with certificates },
   .of "readonly_user" readFlag fun p readonlyUser => { p with readonlyUser },
   .dictionary "settings" fun p settings => { p with settings }]

/-- A profile from fields; unknown ones are ignored. -/
def ofFields (given : Entries Value) : Except Fault Profile :=
  orInvalid (readRecord fields given {})

/-- A text that may be missing. -/
def textOrNull : Option String → Value
  | some s => .text s
  | none => .null

/-- The values of the fields by name, but for the settings. -/
def values (p : Profile) : Entries Value :=
  [("driver", .text p.driver), ("host", .text p.host), ("port", .int p.port),
   ("database", .text p.database), ("username", .text p.username),
   ("password", textOrNull p.password), ("https", .bool p.https),
   ("auth_method", .text p.authMethod.name), ("connect_timeout", p.connectTimeout),
   ("timeout", .int p.timeout), ("ssl_ca", textOrNull p.certificates),
   ("readonly_user", .bool p.readonlyUser)]

end Profile

end Config

end QueryClient
