import QueryClient.Fault
import QueryClient.Files.Store

/-!
# Result files

A file that the rows of a query are written to, in a format of their own and compressed if wanted.
-/

namespace QueryClient.Files

structure ResultFile where
  file : String
  format : String
  gzip : Bool := false
deriving Repr, DecidableEq

def fileFormats : List String :=
  ["TabSeparated", "TabSeparatedWithNames", "CSV", "CSVWithNames", "JSONEachRow"]

/-- A result file. Its format must be supported, it must not exist unless it may be replaced, and
its directory must exist and be one that files can be made in. -/
def ResultFile.make (store : Store) (file : String) (overwrite : Bool) (format : String) :
    Except Fault ResultFile :=
  if !fileFormats.contains format then .error (.unsupportedFormat format fileFormats)
  else if store.holds file && !overwrite then .error (.fileExists file)
  else
    let (directory, known) := store.directoryOf file
    if !known then .error (.directoryMissing directory)
    else if store.isLocked directory then .error (.directoryLocked directory)
    else .ok { file, format }

end QueryClient.Files
