import QueryClient.Cli.Command

/-!
# Help

What the command line says about itself: how it is used, and what its options and commands do.
-/

namespace QueryClient.Cli

def programName : String :=
  "chousun"

def version : String :=
  "1.0.0"

/-- What is printed when the version is asked for. -/
def versionText : String :=
  programName ++ ", version " ++ version ++ "\n"

/-- The width of a column of names; longer names take a line of their own. -/
def nameWidth (names : List String) : Nat :=
  min 30 ((names.map String.length).foldl max 0)

/-- Names with what they stand for, side by side. -/
def definitions (entries : List (String × String)) : String :=
  let width := nameWidth (entries.map (·.1))
  let spaces (n : Nat) := String.ofList (List.replicate n ' ')
  String.join (entries.map fun (name, summary) =>
    let gap :=
      if name.length ≤ width then spaces (width + 2 - name.length)
      else "\n" ++ spaces (width + 4)
    "  " ++ name ++ gap ++ summary ++ "\n")

/-- An option as it is written. -/
def Switch.usage (s : Switch) : String :=
  (match s.letter with
    | some c => String.ofList ['-', c, ',', ' ']
    | none => "") ++ s.name
    ++ (match s.value with
      | some value => " " ++ value
      | none => "")

def optionsText (switches : List Switch) : String :=
  "Options:\n" ++ definitions (switches.map fun s => (s.usage, s.summary))

def verbHelp (verb : Verb) : String :=
  "Usage: " ++ Text.join " " (programName :: verb.name :: "[OPTIONS]" :: verb.operands)
    ++ "\n\n  " ++ verb.summary ++ "\n\n" ++ optionsText verb.switches

/-- How a command line looks. -/
def usageText : String :=
  "Usage: " ++ programName ++ " [OPTIONS] COMMAND [ARGS]...\n"

/-- Help on the whole command line. -/
def programHelp : String :=
  usageText
    ++ "\n  chousun CLI - Query a ClickHouse server over its HTTP interface.\n"
    ++ "\n  Environment Variables:\n"
    ++ "      CH_HOST, CH_PORT, CH_DATABASE, CH_USERNAME, CH_PASSWORD\n\n"
    ++ optionsText commonSwitches
    ++ "\nCommands:\n" ++ definitions (Verb.all.map fun verb => (verb.name, verb.summary))

/-- Help on a verb, or on the whole command line. -/
def helpText : Option Verb → String
  | some verb => verbHelp verb
  | none => programHelp

end QueryClient.Cli
