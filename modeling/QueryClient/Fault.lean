/-!
# What can go wrong

Every failure of the library by its cause, and the wording of those that carry a message.
-/

namespace QueryClient

/-- A failed request as reported to the caller. -/
structure ServerFailure where
  /-- What went wrong, in one line. -/
  text : String
  /-- Status of the response; zero when none arrived. -/
  status : Int
  /-- The body of the response as text. -/
  body : String
  /-- The SQL that the request carried. -/
  sql : Option String
deriving Repr, DecidableEq

/-- A failure by its cause. -/
inductive Fault where
  /-- The operator cannot be compared with NULL. -/
  | illegalCombination (operator : String)
  /-- A range needs exactly two values. -/
  | rangeSize (given : Nat)
  /-- A nested group on a condition list that no query owns. -/
  | ownerlessGroup
  /-- A sub-select callback on a condition list that no query owns. -/
  | ownerlessSubquery
  /-- An order direction that is neither of the two; shown as quoted text. -/
  | unknownDirection (quoted : String)
  /-- A count that must not be negative. -/
  | negativeCount (name : String) (value : Int)
  /-- A query without a connection was to be run. -/
  | noConnection
  /-- An insert of no rows. -/
  | noRows
  /-- Inserted rows with different columns. -/
  | unevenRows
  /-- More or fewer values than placeholders. -/
  | bindingCount (placeholders bindings : Nat)
  /-- A statement without text. -/
  | emptyStatement
  /-- A kind of condition that the grammar does not know. -/
  | noCompiler (kind : String)
  /-- A file of an external table does not exist. -/
  | externalFileMissing (path : String)
  /-- A result file cannot have this format. -/
  | unsupportedFormat (format : String) (available : List String)
  /-- A result file exists and must not be replaced. -/
  | fileExists (path : String)
  /-- The directory of a result file does not exist. -/
  | directoryMissing (path : String)
  /-- No file can be made in the directory of a result file. -/
  | directoryLocked (path : String)
  /-- A connection name that is not configured. -/
  | unknownConnection (name : String) (available : List String)
  /-- A driver that is not there. -/
  | unsupportedDriver (name : String) (available : List String)
  /-- The server reported an error, or none answered. -/
  | server (failure : ServerFailure)
  /-- Fields of a configuration with values they cannot take: place and rule of each. -/
  | invalidFields (fields : List (String × String))
  /-- A configuration source that cannot be read. -/
  | unreadableSource
  /-- Something was asked of a value that it does not have. -/
  | lacksMember
  /-- A value of a kind that does not fit. -/
  | wrongKind
  /-- A value of the right kind that cannot be used. -/
  | unusable
  /-- An infinite number where a whole one is needed. -/
  | unbounded
  /-- A key that is not there. -/
  | missingKey
  /-- Text that is not JSON. -/
  | malformedJson
  /-- A file that cannot be read or written. -/
  | fileFailure
  /-- A query that contains itself. -/
  | endless
  /-- An operation that this kind of stream does not have. -/
  | unimplemented
  /-- Markup that turns off a style that is not on. -/
  | malformedMarkup
  /-- Something other than text where text is to be shown. -/
  | unshowable
  /-- A failure of the network layer that is no answer of the server. -/
  | network (kind : String)
deriving Repr, DecidableEq

/-- The families of failures that a caller can tell apart. -/
inductive FaultFamily where
  | query
  | configuration
  | server
  | fields
  | other
deriving Repr, DecidableEq

def Fault.family : Fault → FaultFamily
  | .illegalCombination _ | .rangeSize _ | .ownerlessGroup | .ownerlessSubquery
  | .unknownDirection _ | .negativeCount _ _ | .noConnection | .noRows | .unevenRows
  | .bindingCount _ _ | .emptyStatement | .noCompiler _ | .externalFileMissing _
  | .unsupportedFormat _ _ | .fileExists _ | .directoryMissing _
  | .directoryLocked _ => .query
  | .unknownConnection _ _ | .unsupportedDriver _ _ => .configuration
  | .server _ => .server
  | .invalidFields _ => .fields
  | _ => .other

/-- A message with the status in front, when there is one. -/
def statusPrefixed (status : Int) (text : String) : String :=
  if status == 0 then text else "[" ++ toString status ++ "] " ++ text

/-- The wording of a failure; empty for those that carry none. -/
def Fault.message : Fault → String
  | .illegalCombination operator =>
    "Illegal operator and value combination: " ++ operator ++ " NULL"
  | .rangeSize given => "Between needs exactly two values, got " ++ toString given
  | .ownerlessGroup => "Nested conditions need a builder-owned condition list"
  | .ownerlessSubquery => "Sub-select callbacks need a builder-owned condition list"
  | .unknownDirection quoted => "Order direction must be 'asc' or 'desc', got " ++ quoted
  | .negativeCount name value => name ++ " must be non-negative, got " ++ toString value
  | .noConnection => "Builder has no connection to run the query on"
  | .noRows => "Insert needs at least one row"
  | .unevenRows => "Every inserted row must have the same columns"
  | .bindingCount placeholders bindings =>
    "Query has " ++ toString placeholders ++ " placeholders but " ++ toString bindings
      ++ " bindings were given"
  | .emptyStatement => "Empty Query"
  | .noCompiler kind => "No compiler for where type: WhereType." ++ kind
  | .externalFileMissing path => "External data file not found: " ++ path
  | .unsupportedFormat format available =>
    "Unsupported output format: " ++ format ++ ". Available: " ++ ", ".intercalate available
  | .fileExists path => "File already exists: " ++ path
  | .directoryMissing path => "Directory does not exist: " ++ path
  | .directoryLocked path => "Directory is not writable: " ++ path
  | .unknownConnection name available =>
    "Unknown connection: " ++ name ++ ". Available: " ++ ", ".intercalate available
  | .unsupportedDriver name available =>
    "Unsupported driver: " ++ name ++ ". Available: " ++ ", ".intercalate available
  | .server failure => statusPrefixed failure.status failure.text
  | _ => ""

/-! ## Steps that may fail -/

theorem ok_bind {α β : Type} (a : α) (f : α → Except Fault β) : (Except.ok a >>= f) = f a := rfl

theorem ok_of_bind {ε α β : Type} {x : Except ε α} {f : α → Except ε β} {b : β}
    (h : (x >>= f) = .ok b) : ∃ a, x = .ok a ∧ f a = .ok b := by
  cases x with
  | error fault => cases h
  | ok a => exact ⟨a, rfl, h⟩

end QueryClient
