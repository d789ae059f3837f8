import QueryClient.Console.Markup
import QueryClient.Console.Table

/-!
# What is printed

Output for a terminal of a fixed width without colours: marked-up text, tables, code, and data as
they are.
-/

namespace QueryClient.Console

/-- The cells of a line. -/
def screenWidth : Nat :=
  80

def textOfLines (lines : List (List Char)) : String :=
  String.ofList (lines.flatMap (· ++ ['\n']))

/-- Marked-up text as printed. -/
def printedMarkup (s : String) : Except Fault String := do
  return textOfLines (laidOut .fold screenWidth (← plainText s))

def printedTable (t : Table) : Except Fault String := do
  return textOfLines (← t.lines screenWidth)

/-- Code as printed: its lines are cut off at the edge. -/
def printedCode (s : String) : String :=
  textOfLines ((Text.splitAtElement '\n' s.toList).map (truncated .fold screenWidth))

/-- The rest of a control sequence after its digits, when it ends there. -/
def afterSequence? : List Char → Option (List Char)
  | [] => none
  | c :: rest =>
    if c == ';' || c == '?' || c.isDigit then afterSequence? rest
    else if c.isAlpha then some rest
    else none

theorem length_of_afterSequence? {cs rest : List Char} (h : afterSequence? cs = some rest) :
    rest.length < cs.length := by
  induction cs with
  | nil => simp [afterSequence?] at h
  | cons c cs ih =>
    simp only [afterSequence?] at h
    split at h
    · have := ih h
      simp only [List.length_cons]
      omega
    · split at h
      · simp only [Option.some.injEq] at h
        simp [← h]
      · simp at h

/-- Characters without control sequences. -/
def withoutSequences (cs : List Char) : List Char :=
  match cs with
  | '\x1b' :: '[' :: rest =>
    match _h : afterSequence? rest with
    | some rest => withoutSequences rest
    | none => '\x1b' :: withoutSequences ('[' :: rest)
  | c :: rest => c :: withoutSequences rest
  | [] => []
termination_by cs.length
decreasing_by
  · have := length_of_afterSequence? _h
    simp only [List.length_cons]
    omega
  · simp
  · simp

/-- Text as printed where it is not marked up. -/
def printedText (s : String) : String :=
  String.ofList (withoutSequences s.toList)

end QueryClient.Console
