import QueryClient.Cli.Run

/-!
# The program

The command line without a network: the body of the server's answer is read from the standard
input, and the requests that would go to the server are listed on the error output.
-/

open QueryClient

/-- The names of the variables that describe the connection. -/
def connectionVariables : List String :=
  ["CH_HOST", "CH_PORT", "CH_DATABASE", "CH_USERNAME", "CH_PASSWORD"]

/-- The variables that are set. -/
def readEnvironment : IO (Entries String) :=
  connectionVariables.filterMapM fun name => do return (← IO.getEnv name).map (name, ·)

/-- All bytes up to the end of the input. -/
partial def readAll (input : IO.FS.Stream) (before : List UInt8) : IO (List UInt8) := do
  let piece ← input.read 65536
  if piece.isEmpty then return before else readAll input (before ++ piece.toList)

def sentLines (run : Cli.Run) : List String :=
  match run.connection with
  | some c => c.queue.session.sent.map fun sent => sent.method ++ " " ++ sent.url
  | none => []

/-- Run the command line. Only a command that reaches the server waits for an answer. -/
def main (arguments : List String) : IO UInt32 := do
  let environment ← readEnvironment
  let run (session : Http.Session) := Cli.run {} environment session arguments
  let run ←
    if (run {}).connection.isSome then do
      let body ← readAll (← IO.getStdin) []
      pure (run { replies := [.answer { body }] })
    else pure (run {})
  IO.print run.output
  for line in sentLines run do IO.eprintln line
  if let some misuse := run.misuse then
    IO.eprint (Cli.usageText ++ "\nError: " ++ misuse.message ++ "\n")
  if let some fault := run.fault then
    IO.eprintln ("Failed: " ++ fault.message)
  return run.exitCode.toUInt32
