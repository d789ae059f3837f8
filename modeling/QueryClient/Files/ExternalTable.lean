import QueryClient.Entries
import QueryClient.Fault
import QueryClient.Files.Store
import QueryClient.Value.Display

/-!
# External tables

Files that are sent along with a query and can be used in it as tables. Each is declared by two
parameters, one for its columns and one for its format. A table that is attached again replaces
the one before.
-/

namespace QueryClient.Files

/-- A file that stands for a table. -/
structure ExternalTable where
  file : String
  table : String
  /-- The columns with their types. -/
  columns : Value
  format : Value

namespace ExternalTable

/-- The columns of a table: a dictionary is written out, anything else is taken as it is. -/
def columnsOf : Value → Value
  | .dict entries =>
    .text (Text.join ", " (entries.map fun (name, kind) => name.display ++ " " ++ kind.display))
  | v => v

/-- Attach one more file; it must exist. -/
def attach (store : Store) (file table : String) (columns format : Value)
    (tables : List ExternalTable) : Except Fault (List ExternalTable) :=
  if store.isFile file then .ok (tables ++ [⟨file, table, columnsOf columns, format⟩])
  else .error (.externalFileMissing file)

def files (tables : List ExternalTable) : Entries String :=
  Entries.putAll [] (tables.map fun t => (t.table, t.file))

def parameters (tables : List ExternalTable) : Entries Value :=
  Entries.putAll [] (tables.flatMap fun t =>
    [(t.table ++ "_structure", t.columns), (t.table ++ "_format", t.format)])

end ExternalTable

end QueryClient.Files
