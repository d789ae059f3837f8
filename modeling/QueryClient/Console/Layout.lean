import QueryClient.Console.Width
import QueryClient.Text.Blank
import QueryClient.Text.Split

/-!
# Laying out text

Text is laid out in lines of at most a given number of cells. Lines break between words; a word
that fits in no line is folded or cut off. Tabs lead to the next multiple of eight cells.
-/

namespace QueryClient.Console

/-- What becomes of text that fits in no line. -/
inductive Overflow where
  /-- It goes on in the next line. -/
  | fold
  /-- It ends in three dots. -/
  | dots
deriving Repr, DecidableEq

/-! ## Words -/

/-- The word at the front with the white space around it, and what follows. -/
def word? (cs : List Char) : Option (List Char × List Char) :=
  let before := cs.takeWhile Text.isBlank
  let rest := cs.dropWhile Text.isBlank
  if rest.isEmpty then none
  else
    let letters := rest.takeWhile (!Text.isBlank ·)
    let rest := rest.dropWhile (!Text.isBlank ·)
    some (before ++ letters ++ rest.takeWhile Text.isBlank, rest.dropWhile Text.isBlank)

/-- Cut a word into pieces of at most a number of cells, given the current piece in reverse and its
cells. -/
def chop (width : Nat) (piece : List Char) (used : Nat) : List Char → List (List Char)
  | [] => [piece.reverse]
  | c :: rest =>
    let size := charCells c
    if used + size > width then piece.reverse :: chop width [c] size rest
    else chop width (c :: piece) (used + size) rest

/-! ## Breaking lines -/

/-- The line that is being filled. -/
structure Filling where
  /-- The lines before it, the latest first. -/
  done : List (List Char) := []
  line : List Char := []
  /-- The cells that count as used. -/
  used : Nat := 0
  /-- Something was put in already. -/
  started : Bool := false

namespace Filling

/-- Go to a new line, unless nothing was put in so far. -/
def lineBreak (f : Filling) : Filling :=
  if f.started then { f with done := f.line :: f.done, line := [] } else f

/-- Put in characters that count as a number of cells. -/
def put (f : Filling) (cs : List Char) (used : Nat) : Filling :=
  { f with line := f.line ++ cs, used, started := f.started || !cs.isEmpty }

/-- Put in a word. White space at its end may stand outside. -/
def putWord (overflow : Overflow) (width : Nat) (f : Filling) (word : List Char) : Filling :=
  let size := cells (Text.trimEndChars word)
  if f.used + size ≤ width then f.put word (f.used + cells word)
  else if size > width then
    match overflow with
    | .fold => (chop width [] 0 word).foldl (fun f piece => f.lineBreak.put piece (cells piece)) f
    | .dots => f.lineBreak.put word (cells word)
  else f.lineBreak.put word (cells word)

def putWords (overflow : Overflow) (width : Nat) (f : Filling) (cs : List Char) : Nat → Filling
  | 0 => f
  | fuel + 1 =>
    match word? cs with
    | some (word, rest) => putWords overflow width (f.putWord overflow width word) rest fuel
    | none => { f with line := f.line ++ cs }

def lines (f : Filling) : List (List Char) :=
  (f.line :: f.done).reverse

end Filling

/-! ## Lines -/

/-- Tabs replaced by spaces, from a number of cells on. -/
def withoutTabs (used : Nat) : List Char → List Char
  | [] => []
  | c :: rest =>
    if c == '\t' then
      let spaces := 8 - used % 8
      List.replicate spaces ' ' ++ withoutTabs (used + spaces) rest
    else c :: withoutTabs (used + charCells c) rest

/-- A line without the white space at its end that stands outside. -/
def withoutHangingSpace (width : Nat) (cs : List Char) : List Char :=
  let blanks := (cs.reverse.takeWhile Text.isBlank).length
  cs.take (cs.length - min blanks (cs.length - width))

/-- A line of at most a number of cells. -/
def truncated (overflow : Overflow) (width : Nat) (cs : List Char) : List Char :=
  if cells cs ≤ width then cs
  else match overflow with
    | .fold => fitted width cs
    | .dots => fitted (width - 1) cs ++ ['…']

/-- The lines of a text in a number of cells. -/
def laidOut (overflow : Overflow) (width : Nat) (cs : List Char) : List (List Char) :=
  (Text.splitAtElement '\n' cs).flatMap fun line =>
    let line := withoutTabs 0 line
    ((Filling.putWords overflow width {} line (line.length + 1)).lines.map
      (withoutHangingSpace width)).map (truncated overflow width)

end QueryClient.Console
