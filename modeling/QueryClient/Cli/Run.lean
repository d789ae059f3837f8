import QueryClient.Cli.Help
import QueryClient.Cli.Report
import QueryClient.Connection.Opening

/-!
# Running a command line

A command opens a connection, does its work, and prints what comes of it. A failure that the
library knows is printed in one line; any other one is left to the caller. Both end the run with
exit code one, misuse of the command line with exit code two.
-/

namespace QueryClient.Cli

open Console
open Files (ResultFile Store)
open Http (Session)

/-- What a run leaves behind. -/
structure Run where
  exitCode : Nat := 0
  output : String := ""
  /-- The command line was not understood. -/
  misuse : Option Misuse := none
  /-- A failure that was not printed. -/
  fault : Option Fault := none
  /-- The connection, if one was opened. -/
  connection : Option Connection := none

/-! ## Failures -/

/-- A failure that the library knows. -/
def isKnown (fault : Fault) : Bool :=
  [.query, .configuration, .server].contains fault.family

def failureLine (fault : Fault) : Except Fault String :=
  printedMarkup ("[bold red]Error:[/bold red] [red]" ++ escape fault.message ++ "[/red]")

/-- The run that ends as printed. A failure of the library is printed as well. -/
def Run.ending (connection : Option Connection) (exitCode : Nat) (printed : Printed) : Run :=
  match printed.fault with
  | none => { exitCode, output := printed.text, connection }
  | some fault =>
    let last := if isKnown fault then Printed.inTurn [failureLine fault] else { fault }
    { exitCode := 1, output := printed.text ++ last.text, fault := last.fault, connection }

/-- A run that failed before anything was printed. -/
def Run.failing (connection : Option Connection) (fault : Fault) : Run :=
  .ending connection 1 { fault }

/-- A run that prints a line of marked-up text. -/
def Run.saying (connection : Connection) (exitCode : Nat) (line : String) : Run :=
  match printedMarkup line with
  | .ok text => { exitCode, output := text, connection }
  | .error fault => { exitCode := 1, fault, connection }

/-! ## Commands -/

/-- Go on after something was asked of a connection, unless that failed. -/
def after {α : Type} (outcome : Connection × Except Fault α)
    (andThen : Connection → α → Run) : Run :=
  match outcome with
  | (c, .ok a) => andThen c a
  | (c, .error fault) => .failing c fault

/-- Ask whether the server is there. -/
def ping (c : Connection) : Run :=
  after c.ping fun c alive =>
    match c.uri with
    | .error fault => .failing c fault
    | .ok uri =>
      if alive then .saying c 0 ("[green]✓[/green] " ++ uri ++ " is alive")
      else .saying c 1 ("[red]✗ No answer from " ++ uri ++ "[/red]")

/-- Read and show. -/
def query (c : Connection) (sql format : String) : Run :=
  match Sql.Statement.ofText sql with
  | .error fault => .failing c fault
  | .ok s =>
    after (c.select (.statement (s.setFormat format)) .null) fun c r =>
      .ending c 0 (showResult (Result.ofRequest r))

def write (c : Connection) (sql : String) : Run :=
  after (c.write (.text sql) .null) fun c _ => .saying c 0 "[green]✓[/green] Done"

def save (c : Connection) (sql file format : String) (gzip : Bool) : Run :=
  match ResultFile.make c.store file true format with
  | .error fault => .failing c fault
  | .ok sink =>
    after (c.select (.text sql) .null [] (some { sink with gzip })) fun c r =>
      let result := Result.ofRequest r
      if result.isError then .failing c result.fault
      else .saying c 0 ("[green]✓[/green] Wrote " ++ file)

def Command.run (c : Connection) : Command → Run
  | .ping => Cli.ping c
  | .query sql format => Cli.query c sql format
  | .write sql => Cli.write c sql
  | .save sql file format gzip => Cli.save c sql file format gzip

/-! ## Command lines -/

/-- Run a command line with the files, the environment and the session that there are. -/
def run (store : Store) (environment : Entries String) (session : Session)
    (arguments : List String) : Run :=
  match Wish.read store environment arguments with
  | .error misuse => { exitCode := 2, misuse }
  | .ok .version => { output := versionText }
  | .ok (.help verb) => { output := helpText verb }
  | .ok (.run profile command) =>
    match Connection.ofProfile profile store session with
    | .error fault => .failing none fault
    | .ok c => command.run c

end QueryClient.Cli
