import QueryClient.Sql.Literal
import QueryClient.Sql.Placeholder

/-!
# Putting values into statements

Values go into a statement by position, one for each placeholder, or by name, for references such
as `:name` and `{name}`. Either way the text around them is copied and never read again.
-/

namespace QueryClient.Sql

/-! ## By position -/

/-- Pieces of text with one literal between every two. -/
def interleave : List (List Char) → List Value → List Char
  | [], _ => []
  | [piece], _ => piece
  | piece :: more, [] => piece ++ interleave more []
  | piece :: more, v :: rest => piece ++ (literal v).toList ++ interleave more rest

/-- Put values into the placeholders of a statement. -/
def bindPositional (sql : String) (values : List Value) : Except Fault String :=
  let parts := pieces .code sql.toList
  if parts.length == values.length + 1 then .ok (String.ofList (interleave parts values))
  else .error (.bindingCount (parts.length - 1) values.length)

/-! ## By name -/

/-- A part of a statement. -/
inductive Segment where
  /-- A character that is copied. -/
  | verbatim (c : Char)
  /-- A reference to a value. -/
  | reference (name : List Char)
deriving Repr, DecidableEq

/-- The name in front of a text; empty when none starts there. -/
def nameAt (cs : List Char) : List Char :=
  match cs with
  | c :: _ => if Text.isDigit c then [] else cs.takeWhile Text.isWordChar
  | [] => []

/-- The reference that a character outside quotes begins, as its name and the number of characters
after it that belong to it. `previous` is the character before it. -/
def referenceAt? (isKey : List Char → Bool) (previous : Option Char) (c : Char)
    (rest : List Char) : Option (List Char × Nat) :=
  let name := nameAt rest
  if c == ':' then
    if rest.head? != some ':' && previous != some ':' && isKey name then some (name, name.length)
    else none
  else if c == '\x7b' then
    if isKey name && (rest.drop name.length).head? == some '\x7d' then
      some (name, name.length + 1)
    else none
  else none

/-- The segments of the rest of a text. -/
def segmentsFrom (isKey : List Char → Bool) (r : Region) (previous : Option Char) :
    List Char → List Segment
  | [] => []
  | c :: rest =>
    match if r == .code then referenceAt? isKey previous c rest else none with
    | some (name, width) =>
      .reference name
        :: segmentsFrom isKey .code (c :: rest.take width).getLast? (rest.drop width)
    | none => .verbatim c :: segmentsFrom isKey (r.step c) (some c) rest
termination_by cs => cs.length
decreasing_by all_goals simp only [List.length_cons, List.length_drop]; omega

/-- The segments of a statement; they depend only on the text and on which names are keys. -/
def segments (isKey : List Char → Bool) (sql : String) : List Segment :=
  segmentsFrom isKey .code none sql.toList

def Segment.fill (lookup : List Char → Option Value) : Segment → List Char
  | .verbatim c => [c]
  | .reference name => ((lookup name).map fun v => (literal v).toList).getD []

/-- Put values into the references of a statement; references without a value stay. -/
def bindNamed (sql : String) (entries : List (Value × Value)) : String :=
  let lookup (name : List Char) := Value.lookup? (String.ofList name) entries
  String.ofList ((segments (fun name => (lookup name).isSome) sql).flatMap (Segment.fill lookup))

/-! ## Both -/

/-- Put values into a statement: a dictionary by name, anything else by position. Without values
the statement is left as it is. -/
def bind (sql : String) (values : Value) : Except Fault String :=
  if !values.isTruthy then .ok sql
  else match values with
    | .dict entries => .ok (bindNamed sql entries)
    | _ => do bindPositional sql (← values.elements)

end QueryClient.Sql
