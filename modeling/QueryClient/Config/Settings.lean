import QueryClient.Config.Record

/-!
# Engine settings

The options that go with every request as URL parameters. A few of them are typed; any other is
kept as it was given. What is sent for one request is worked out from them without changing them.
-/

namespace QueryClient.Config

/-- Engine settings of a connection. -/
structure Settings where
  database : String := "default"
  extremes : Bool := false
  /-- Zero allows writes, one and two are levels of read-only access. -/
  readonly : Int := 1
  maxExecutionTime : Int := 20
  httpCompression : Bool := false
  https : Bool := false
  sessionId : Option String := none
  /-- The user cannot change settings. -/
  readonlyUser : Bool := false
  /-- Options without a type of their own. -/
  extra : Entries Value := []
  /-- How many sessions were started. -/
  sessions : Nat := 0

/-! ## Typed options -/

inductive TypedOption where
  | database | extremes | readonly | maxExecutionTime | httpCompression | https | sessionId
  | readonlyUser
deriving Repr, DecidableEq

namespace TypedOption

def all : List TypedOption :=
  [database, extremes, readonly, maxExecutionTime, httpCompression, https, sessionId, readonlyUser]

def name : TypedOption → String
  | database => "database"
  | extremes => "extremes"
  | readonly => "readonly"
  | maxExecutionTime => "max_execution_time"
  | httpCompression => "enable_http_compression"
  | https => "https"
  | sessionId => "session_id"
  | readonlyUser => "readonly_user"

def ofName? (s : String) : Option TypedOption :=
  all.find? (·.name == s)

end TypedOption

namespace Settings

def option (s : Settings) : TypedOption → Value
  | .database => .text s.database
  | .extremes => .bool s.extremes
  | .readonly => .int s.readonly
  | .maxExecutionTime => .int s.maxExecutionTime
  | .httpCompression => .bool s.httpCompression
  | .https => .bool s.https
  | .sessionId =>
    match s.sessionId with
    | some id => .text id
    | none => .null
  | .readonlyUser => .bool s.readonlyUser

/-- Set a typed option to a value that can be read as one of its kind. -/
def readOption (s : Settings) (v : Value) : TypedOption → Except Misfit Settings
  | .database => (readText v).map ({ s with database := · })
  | .extremes => (readFlag v).map ({ s with extremes := · })
  | .readonly => (readWhole v).map ({ s with readonly := · })
  | .maxExecutionTime => (readWhole v).map ({ s with maxExecutionTime := · })
  | .httpCompression => (readFlag v).map ({ s with httpCompression := · })
  | .https => (readFlag v).map ({ s with https := · })
  | .sessionId => (readText? v).map ({ s with sessionId := · })
  | .readonlyUser => (readFlag v).map ({ s with readonlyUser := · })

def setOption (s : Settings) (o : TypedOption) (v : Value) : Except Fault Settings :=
  (s.readOption v o).mapError fun m => .invalidFields [m.at o.name]

/-! ## All options -/

/-- Set an option by name. -/
def set (s : Settings) (key : String) (v : Value) : Except Fault Settings :=
  match TypedOption.ofName? key with
  | some o => s.setOption o v
  | none => .ok { s with extra := s.extra.put key v }

/-- An option by name. -/
def get (s : Settings) (key : String) (default : Value) : Value :=
  match TypedOption.ofName? key with
  | some o => s.option o
  | none => (s.extra.find? key).getD default

/-- An option has a value. -/
def isSet (s : Settings) (key : String) : Bool :=
  match TypedOption.ofName? key with
  | some o => !(s.option o).isNull
  | none => s.extra.holds key

/-- Set options one after the other; those before one that does not fit stay set. -/
def apply (s : Settings) : List (String × Value) → Settings × Option Fault
  | [] => (s, none)
  | (key, v) :: rest =>
    match s.set key v with
    | .ok s => s.apply rest
    | .error fault => (s, some fault)

/-- The identifier of a session by its number, in 32 hexadecimal digits. -/
def identifier (n : Nat) : String :=
  String.ofList (Text.hexDigits 32 n)

def startSession (s : Settings) : Settings :=
  { s with sessionId := some (identifier (s.sessions + 1)), sessions := s.sessions + 1 }

/-! ## Settings from fields -/

def fields : List (Field Settings) :=
  TypedOption.all.map (fun o =>
    { name := o.name, put := fun s v => (s.readOption v o).mapError fun m => [m.at o.name] })
  ++ [.dictionary "extra" fun s extra => { s with extra }]

/-- Settings from fields; unknown ones are ignored. -/
def ofFields (given : Entries Value) : Except Fault Settings :=
  orInvalid (readRecord fields given {})

/-! ## Parameters -/

/-- A flag as a number, anything else as it is. -/
def parameterValue : Value → Value
  | .bool b => .int (if b then 1 else 0)
  | v => v

def parameters (s : Settings) : Entries Value :=
  let session := match s.sessionId with
    | some id => if id.isEmpty then [] else [("session_id", .text id)]
    | none => []
  let all := Entries.putAll
    ([TypedOption.database, .extremes, .readonly, .maxExecutionTime, .httpCompression, .https].map
      (fun o => (o.name, s.option o)) ++ session) s.extra
  (all.filter fun (_, v) => !v.isNull).map fun (k, v) => (k, parameterValue v)

/-- Options that a user who cannot change settings must not send. -/
def strippedForReadonlyUser : List String :=
  ["extremes", "readonly", "enable_http_compression", "max_execution_time"]

/-- Options of the client that are never sent. -/
def clientOnly : List String :=
  ["https"]

/-- The parameters of one request: its own over those of the settings, without the ones that are
excluded or must not be sent. -/
def effectiveParameters (s : Settings) (own : List (String × Value)) (excluded : List String) :
    Entries Value :=
  let all := Entries.putAll s.parameters (own.map fun (k, v) => (k, parameterValue v))
  let stripped := clientOnly ++ excluded
    ++ (if s.readonlyUser then strippedForReadonlyUser else [])
  all.removeAll stripped

end Settings

end QueryClient.Config
