import QueryClient.Fault
import QueryClient.Text.Blank
import QueryClient.Text.Case
import QueryClient.Text.Split
import QueryClient.Value.Display

/-!
# Identifiers

A name is written between backticks. A dot separates a table from its column, `as` introduces an
alias, an arrow selects a part of a JSON column, and a star stands for itself. Names of tables
carry the prefix of the grammar, also where a table qualifies a column.
-/

namespace QueryClient.Identifier

/-! ## One segment -/

/-- A name between backticks; a backtick inside is doubled. -/
def backticked (cs : List Char) : List Char :=
  '\x60' :: cs.flatMap (fun c => if c = '\x60' then ['\x60', '\x60'] else [c]) ++ ['\x60']

/-- Pieces of a name between its arrows. -/
def splitAtArrows : List Char → List (List Char)
  | [] => [[]]
  | '-' :: '>' :: rest => [] :: splitAtArrows rest
  | c :: rest =>
    match splitAtArrows rest with
    | piece :: pieces => (c :: piece) :: pieces
    | [] => [[c]]

/-- A part of a path between double quotes. -/
def pathPart (cs : List Char) : List Char :=
  '"' :: cs ++ ['"']

def segment (cs : List Char) : List Char :=
  if cs = ['*'] then cs
  else match splitAtArrows cs with
    | field :: part :: parts =>
      (if field = ['*'] then field else backticked field) ++ "->'$.".toList
        ++ Text.joinLists ['.'] ((part :: parts).map pathPart) ++ ['\'']
    | _ => backticked cs

/-! ## Aliases -/

/-- A character equals a small Latin letter in any case. -/
def isLetter (small c : Char) : Bool :=
  c == small || c == small.toUpper || (small == 's' && c == 'ſ')

/-- The name holds the word `as` between single spaces. -/
def holdsAs : List Char → Bool
  | [] => false
  | c :: rest =>
    (match c, rest with
      | ' ', a :: s :: ' ' :: _ => (a == 'a' || a == 'A') && (s == 's' || s == 'S')
      | _, _ => false) || holdsAs rest

/-- The alias after white space, the word `as` and white space, when the text starts with them. -/
def aliasAt? (cs : List Char) : Option (List Char) :=
  match cs with
  | c :: _ =>
    if Text.isBlank c then
      match cs.dropWhile Text.isBlank with
      | a :: s :: b :: rest =>
        if isLetter 'a' a && isLetter 's' s && Text.isBlank b then
          some (rest.dropWhile Text.isBlank)
        else none
      | _ => none
    else none
  | [] => none

/-- The name in front of the first alias, and the alias. -/
def cutAlias? : List Char → Option (List Char × List Char)
  | [] => none
  | c :: rest =>
    ((aliasAt? (c :: rest)).map fun label => ([], label)).orElse fun _ =>
      (cutAlias? rest).map fun (name, label) => (c :: name, label)

def nameAndAlias (cs : List Char) : List Char × Option (List Char) :=
  if holdsAs cs then
    match cutAlias? cs with
    | some (name, label) => (name, some label)
    | none => (cs, none)
  else (cs, none)

def withAlias (name : List Char) (label : Option (List Char)) : List Char :=
  match label with
  | some label => name ++ " as ".toList ++ segment label
  | none => name

/-! ## Qualified names -/

/-- A name without alias, each segment for itself. What stands in front of its first dot is a
table. -/
def qualifiedBy (table : List Char → Except Fault (List Char)) (cs : List Char) :
    Except Fault (List Char) :=
  match Text.splitAtElement '.' cs with
  | first :: second :: rest => do
    let table ← table first
    return Text.joinLists ['.'] (table :: (second :: rest).map segment)
  | _ => .ok (segment cs)

/-- A name; its alias carries the prefix when it is the alias of a table. -/
def namedBy (table : List Char → Except Fault (List Char)) (tablePrefix : List Char)
    (prefixAlias : Bool) (cs : List Char) : Except Fault (List Char) := do
  let (name, label) := nameAndAlias cs
  let label := if prefixAlias then label.map (tablePrefix ++ ·) else label
  return withAlias (← qualifiedBy table name) label

/-- The table that qualifies a column. It carries the prefix like any table, and a prefix with a dot
makes it a name with a table of its own, up to a depth. -/
def qualifier (tablePrefix : List Char) : Nat → List Char → Except Fault (List Char)
  | 0, _ => .error .endless
  | depth + 1, cs => namedBy (qualifier tablePrefix depth) tablePrefix true (tablePrefix ++ cs)

/-- The table of a table is what stands in front of the first dot of the prefix, and so is the table
of that one: a name that comes to no end at this depth has none. -/
def qualifierDepth : Nat := 2

/-- A name; its alias carries the prefix when it is the alias of a table. -/
def named (tablePrefix : List Char) (prefixAlias : Bool) (cs : List Char) :
    Except Fault (List Char) :=
  namedBy (qualifier tablePrefix qualifierDepth) tablePrefix prefixAlias cs

def column (tablePrefix cs : List Char) : Except Fault (List Char) :=
  named tablePrefix false cs

/-- The name of a table; both the name and its alias carry the prefix. -/
def table (tablePrefix cs : List Char) : Except Fault (List Char) :=
  named tablePrefix true (tablePrefix ++ cs)

/-! ## Values as identifiers -/

/-- A name given as a value: raw SQL as it is, text as a name. -/
def ofName (tablePrefix : String) (prefixAlias : Bool) : Value → Except Fault String
  | .raw inner => .ok inner.display
  | .text s => (named tablePrefix.toList prefixAlias s.toList).map String.ofList
  | .bytes _ | .bytearray _ => .error .wrongKind
  | _ => .error .lacksMember

def ofColumn (tablePrefix : String) (v : Value) : Except Fault String :=
  ofName tablePrefix false v

/-- A table given as a value: raw SQL as it is, text as a name. -/
def ofTable (tablePrefix : String) : Value → Except Fault String
  | .raw inner => .ok inner.display
  | .text s => (table tablePrefix.toList s.toList).map String.ofList
  | _ => .error .wrongKind

def ofSegment : Value → Except Fault String
  | .text s => .ok (String.ofList (segment s.toList))
  | .list _ | .tuple _ | .set _ | .dict _ => .error .lacksMember
  | _ => .error .wrongKind

end QueryClient.Identifier
