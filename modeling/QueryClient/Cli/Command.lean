import QueryClient.Cli.Arguments
import QueryClient.Config.Profile
import QueryClient.Files.ResultFile

/-!
# Commands

What the command line offers: options that say where the server is and who connects, which the
environment may set as well, and a command with options and operands of its own.
-/

namespace QueryClient.Cli

open Config (Profile)

/-! ## Options -/

/-- The option that asks for help. -/
def helpSwitch : Switch :=
  { name := "--help", summary := "Show this message and exit." }

/-- The options in front of a command. -/
def commonSwitches : List Switch :=
  [{ name := "--host", value := some "TEXT", summary := "Server host  [default: 127.0.0.1]" },
   { name := "--port", value := some "INTEGER", summary := "Server HTTP port  [default: 8123]" },
   { name := "--database", value := some "TEXT", summary := "Database  [default: default]" },
   { name := "--user", value := some "TEXT", summary := "User name  [default: default]" },
   { name := "--password", value := some "TEXT", summary := "Password" },
   { name := "--https", summary := "Connect over HTTPS" },
   { name := "--verbose", letter := some 'v', summary := "Log requests and compiled SQL" },
   { name := "--version", summary := "Show the version and exit." },
   helpSwitch]

/-! ## Verbs -/

/-- What can be done. -/
inductive Verb where
  | save
  | ping
  | query
  | write
deriving Repr, DecidableEq

namespace Verb

def all : List Verb :=
  [save, ping, query, write]

def name : Verb → String
  | save => "export"
  | ping => "ping"
  | query => "query"
  | write => "write"

def ofName? (s : String) : Option Verb :=
  all.find? (·.name == s)

def summary : Verb → String
  | save => "Stream a select's result into FILE."
  | ping => "Check that the server answers."
  | query => "Run a select and print the result."
  | write => "Run a write statement (INSERT, CREATE, ALTER, ...)."

def operands : Verb → List String
  | save => ["SQL", "FILE"]
  | ping => []
  | query | write => ["SQL"]

/-- Its options. -/
def switches : Verb → List Switch
  | save =>
    [{ name := "--format", value := some ("[" ++ Text.join "|" Files.fileFormats ++ "]"),
       summary := "[default: CSV]" },
     { name := "--gzip", summary := "Gzip the output file" },
     helpSwitch]
  | query =>
    [{ name := "--format", value := some "TEXT", summary := "Output format  [default: JSON]" },
     helpSwitch]
  | ping | write => [helpSwitch]

end Verb

/-! ## Commands -/

/-- A verb with its options and operands. -/
inductive Command where
  | ping
  | query (sql format : String)
  | write (sql : String)
  | save (sql file format : String) (gzip : Bool)
deriving Repr, DecidableEq

namespace Command

def chosen (name : String) (choices : List String) (value : String) : Except Misuse String :=
  if choices.contains value then .ok value else .error (.notChoice name value choices)

/-- The file to write must not be a directory. -/
def checkFile (store : Files.Store) : List String → Except Misuse Unit
  | _ :: file :: _ =>
    if store.isDirectory file then .error (.isDirectory "FILE" file) else .ok ()
  | _ => .ok ()

/-- A command from what its arguments give. -/
def ofGiven (store : Files.Store) (given : Given) : Verb → Except Misuse Command
  | .ping => (noOperand given.operands).map fun _ => ping
  | .query => do
    let format := (given.value? "--format").getD "JSON"
    return query (← oneOperand "SQL" given.operands) format
  | .write => (oneOperand "SQL" given.operands).map write
  | .save => do
    let format ← chosen "--format" Files.fileFormats ((given.value? "--format").getD "CSV")
    checkFile store given.operands
    let (sql, file) ← twoOperands "SQL" "FILE" given.operands
    return save sql file format (given.has "--gzip")

end Command

/-! ## The connection -/

/-- The value of an option: as given, or else from the environment, unless it is empty there. -/
def setting? (given : Given) (environment : Entries String) (name key : String) : Option String :=
  match given.value? name with
  | some value => some value
  | none => (environment.find? key).filter (!·.isEmpty)

def portOf : Option String → Except Misuse Int
  | none => .ok 8123
  | some value =>
    match Number.integerOfText? value with
    | some port => .ok port
    | none => .error (.notWhole "--port" value)

/-- The profile that the options in front of a command describe. -/
def profileOf (given : Given) (environment : Entries String) : Except Misuse Profile := do
  let setting := setting? given environment
  return {
    host := (setting "--host" "CH_HOST").getD "127.0.0.1"
    port := ← portOf (setting "--port" "CH_PORT")
    database := (setting "--database" "CH_DATABASE").getD "default"
    username := (setting "--user" "CH_USERNAME").getD "default"
    password := setting "--password" "CH_PASSWORD"
    https := given.has "--https" }

/-! ## Command lines -/

/-- What a command line asks for. -/
inductive Wish where
  | version
  /-- Help on a verb, or on all of them. -/
  | help (verb : Option Verb)
  | run (profile : Profile) (command : Command)

namespace Wish

/-- The first of the options that are answered at once. -/
def atOnce? (given : Given) : Option Wish :=
  given.options.findSome? fun (name, _) =>
    if name == "--version" then some version
    else if name == helpSwitch.name then some (help none)
    else none

/-- A name that is no verb: after two dashes it may still be an option that is answered at once. -/
def unknownVerb (name : String) : Except Misuse Wish := do
  let given ← if isOption name then readArguments commonSwitches false [name] else pure {}
  match atOnce? given with
  | some wish => return wish
  | none => throw (.noSuchCommand name)

def ofVerb (store : Files.Store) (profile : Profile) (verb : Verb) (arguments : List String) :
    Except Misuse Wish := do
  let given ← readArguments verb.switches true arguments
  if given.has helpSwitch.name then return help verb
  else return run profile (← Command.ofGiven store given verb)

def read (store : Files.Store) (environment : Entries String) (arguments : List String) :
    Except Misuse Wish := do
  let given ← readArguments commonSwitches false arguments
  match atOnce? given with
  | some wish => return wish
  | none =>
    let profile ← profileOf given environment
    match given.operands with
    | [] => throw .commandMissing
    | name :: arguments =>
      match Verb.ofName? name with
      | some verb => ofVerb store profile verb arguments
      | none => unknownVerb name

end Wish

end QueryClient.Cli
