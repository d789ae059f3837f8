import QueryClient.Console.Layout
import QueryClient.Fault
import QueryClient.Number.Binary64

/-!
# Tables

A table with a header in a frame. Columns are as wide as their cells need; when they do not fit on
the terminal, the widest ones give way first, and then all of them alike. A cell is laid out in the
width of its column.
-/

namespace QueryClient.Console

/-- The text of a cell, or why it cannot be shown. -/
abbrev Cell := Except Fault (List Char)

/-- A table: its header and its rows. -/
structure Table where
  header : List Cell
  rows : List (List Cell)

/-! ## Widths -/

/-- The cells of the widest line of a text. -/
def widest (cs : List Char) : Nat :=
  ((Text.linesFrom [] cs).map cells).foldl max 0

/-- The width that a cell of a table wants, with a space on both sides, out of what there is. -/
def Cell.width (available : Nat) (cell : Cell) : Except Fault Nat :=
  if available < 3 then .ok available
  else cell.map fun cs => min available (widest cs + 2)

def columnWidth (available : Nat) (column : List Cell) : Except Fault Nat := do
  return ((← column.mapM (Cell.width available)).foldl max 0)

/-- Take a total away from widths, in equal shares from those that are to give way and at most a
bound from each. -/
def reduced (total shares : Nat) (givesWay : Nat → Bool) (bound : Nat → Nat) : List Nat → List Nat
  | [] => []
  | width :: rest =>
    if givesWay width && 0 < shares then
      let part := min (bound width) (Number.roundHalfEven total shares)
      (width - part) :: reduced (total - part) (shares - 1) givesWay bound rest
    else width :: reduced total shares givesWay bound rest

/-- Widths side by side. -/
def total (widths : List Nat) : Nat :=
  widths.foldl (· + ·) 0

/-- Let the widest columns give way until the widths fit or all are alike. -/
def narrowed (available : Nat) (widths : List Nat) : Nat → List Nat
  | 0 => widths
  | fuel + 1 =>
    let excess := total widths - available
    if excess == 0 then widths
    else
      let most := widths.foldl max 0
      let second := (widths.filter (· != most)).foldl max 0
      let step := min excess (most - second)
      if step == 0 then widths
      else
        let shares := (widths.filter (· == most)).length
        narrowed available (reduced excess shares (· == most) (fun _ => step) widths) fuel

/-- Widths that fit, if need be by taking the same from all. -/
def narrowedAll (available : Nat) (widths : List Nat) : List Nat :=
  let widths := narrowed available widths (total widths)
  let excess := total widths - available
  if excess == 0 then widths
  else reduced excess (widths.filter (0 < ·)).length (0 < ·) id widths

def columnWidths (available : Nat) (columns : List (List Cell)) : Except Fault (List Nat) := do
  let wanted := (← columns.mapM (columnWidth available)).map (max 1)
  if total wanted ≤ available then return wanted
  else ((narrowedAll available wanted).zip columns).mapM fun (width, column) =>
    columnWidth width column

/-! ## Rows -/

def Cell.lines (width : Nat) (cell : Cell) : Except Fault (List (List Char)) :=
  if width < 3 then .ok []
  else cell.map fun cs => (laidOut .dots (width - 2) cs).map fun line =>
    ' ' :: fitted (width - 2) line ++ [' ']

/-- Lines brought to a height with blank ones, in front of them or after them. -/
def filled (atBottom : Bool) (height width : Nat) (lines : List (List Char)) : List (List Char) :=
  let blanks := List.replicate (height - lines.length) (List.replicate width ' ')
  if atBottom then blanks ++ lines else lines ++ blanks

/-- Lines side by side, with an edge at both ends. -/
def besideEachOther (edge : Char) (height : Nat) (columns : List (List (List Char))) :
    List (List Char) :=
  (List.range height).map fun n =>
    edge :: Text.joinLists [edge] (columns.map fun lines => lines.getD n []) ++ [edge]

/-- The lines of a row. The cells of a header stand at the bottom of their row. -/
def rowLines (isHeader : Bool) (widths : List Nat) (row : List Cell) :
    Except Fault (List (List Char)) := do
  let columns ← (widths.zip row).mapM fun (width, cell) => cell.lines width
  let height := (columns.map List.length).foldl max 1
  return besideEachOther (if isHeader then '┃' else '│') height
    ((widths.zip columns).map fun (width, lines) => filled isHeader height width lines)

/-! ## The table -/

/-- A line of the frame. -/
def ruleLine (left line crossing right : Char) (widths : List Nat) : List Char :=
  left :: Text.joinLists [crossing] (widths.map fun width => List.replicate width line) ++ [right]

def Table.column (t : Table) (n : Nat) : List Cell :=
  (t.header :: t.rows).map fun row => row.getD n (.ok [])

/-- The lines of a table on a terminal. A table without columns is a blank line. -/
def Table.lines (t : Table) (width : Nat) : Except Fault (List (List Char)) := do
  if t.header.isEmpty then return [[]]
  let columns := (List.range t.header.length).map t.column
  let widths ← columnWidths (width - (t.header.length + 1)) columns
  let header ← rowLines true widths t.header
  let rows ← t.rows.mapM (rowLines false widths)
  let all := [ruleLine '┏' '━' '┳' '┓' widths] ++ header ++ [ruleLine '┡' '━' '╇' '┩' widths]
    ++ rows.flatten ++ [ruleLine '└' '─' '┴' '┘' widths]
  return all.map fun line => if cells line ≤ width then line else fitted width line

end QueryClient.Console
