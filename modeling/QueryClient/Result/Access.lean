import QueryClient.Result.Basic

/-!
# Asking a result

What can be asked of a result, as callers name it.
-/

namespace QueryClient.Result

inductive Access where
  | isError
  /-- Raise the report of the failure, whether there was one or not. -/
  | failure
  | rows
  /-- The first row, or a cell of it. -/
  | first (key : Value)
  | columns
  | totals
  | extremes
  | statistics
  | countRows
  | countAll
  | size
  | keys
  | body
  | format
  | sql
  | summary

def Access.ofName? (argument : Value) : String → Option Access
  | "is_error" => some isError
  | "error" => some failure
  | "rows" | "iter" => some rows
  | "fetch_one" => some (first argument)
  | "meta" => some columns
  | "totals" => some totals
  | "extremes" => some extremes
  | "statistics" => some statistics
  | "count_rows" => some countRows
  | "count_all" => some countAll
  | "len" => some size
  | "keys" => some keys
  | "raw" => some body
  | "format" => some format
  | "sql" => some sql
  | "summary" => some summary
  | _ => none

/-- What a result answers: a document, or the bytes of its body. -/
inductive Answer where
  | document (d : Document)
  | data (bytes : List UInt8)

/-- A text that may be missing. -/
def textOrNull : Option String → Document
  | some s => .text s
  | none => .null

def ask (r : Result) : Access → Except Fault Answer
  | .isError => .ok (.document (.bool r.isError))
  | .failure => .error r.fault
  | .rows => do return .document (.array (← r.rows))
  | .first key => do return .document (← r.first key)
  | .columns => do return .document (← r.columns)
  | .totals => do return .document (← r.totals)
  | .extremes => do return .document (← r.extremes)
  | .statistics => do return .document (← r.statistics)
  | .countRows => do return .document (.int (← r.countRows))
  | .countAll => do return .document (.int (← r.countAll))
  | .size => do return .document (.int (← r.rows).length)
  | .keys => do return .document (.array ((← r.keys).map .text))
  | .body => .ok (.data r.response.body)
  | .format => .ok (.document (textOrNull r.format))
  | .sql => .ok (.document (textOrNull r.sql))
  | .summary => .ok (.document ((r.summary.map .object).getD .null))

end QueryClient.Result
