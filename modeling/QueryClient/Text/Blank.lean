/-!
# White space and lines

White space is what every script uses to separate words, the four ASCII information separators
among it. Trimming removes it at the ends; a text falls into lines at any of the line boundaries
of the Unicode standard.
-/

namespace QueryClient.Text

-- What the characters of a text have is decided along the text, not for all characters there are.
section Decide

variable {p : Char → Prop} [DecidablePred p]

instance (priority := 2000) decidableForallChar (cs : List Char) : Decidable (∀ c ∈ cs, p c) :=
  List.decidableBAll p cs

instance (priority := 2000) decidableForallChar? (c? : Option Char) :
    Decidable (∀ c ∈ c?, p c) :=
  Option.decidableForallMem c?

end Decide

/-! ## White space -/

/-- A white-space character. -/
def isBlank (c : Char) : Bool :=
  let n := c.toNat
  (0x9 ≤ n && n ≤ 0xd) || (0x1c ≤ n && n ≤ 0x20) || n == 0x85 || n == 0xa0 || n == 0x1680
    || (0x2000 ≤ n && n ≤ 0x200a) || n == 0x2028 || n == 0x2029 || n == 0x202f || n == 0x205f
    || n == 0x3000

/-- Characters without the white space in front. -/
def trimStartChars (cs : List Char) : List Char :=
  cs.dropWhile isBlank

/-- Characters without the white space at the end. -/
def trimEndChars (cs : List Char) : List Char :=
  (cs.reverse.dropWhile isBlank).reverse

/-- Characters without the white space at both ends. -/
def trimChars (cs : List Char) : List Char :=
  trimEndChars (trimStartChars cs)

/-- The text without white space in front. -/
def trimStart (s : String) : String :=
  String.ofList (trimStartChars s.toList)

/-- The text without white space at the end. -/
def trimEnd (s : String) : String :=
  String.ofList (trimEndChars s.toList)

/-- The text without white space at both ends. -/
def trim (s : String) : String :=
  String.ofList (trimChars s.toList)

/-- Nothing but white space. -/
def isBlankText (s : String) : Bool :=
  s.toList.all isBlank

/-! ## Lines -/

/-- A character that ends a line; a carriage return takes a line feed after it along. -/
def isLineEnd (c : Char) : Bool :=
  let n := c.toNat
  (0xa ≤ n && n ≤ 0xd) || (0x1c ≤ n && n ≤ 0x1e) || n == 0x85 || n == 0x2028 || n == 0x2029

/-- The lines of the rest of a text, given the current line in reverse. -/
def linesFrom (current : List Char) : List Char → List (List Char)
  | [] => if current.isEmpty then [] else [current.reverse]
  | '\r' :: '\n' :: rest => current.reverse :: linesFrom [] rest
  | c :: rest => if isLineEnd c then current.reverse :: linesFrom [] rest
    else linesFrom (c :: current) rest

/-- The lines of a text, without their ends; a text that ends with a line end has no empty last
line. -/
def lines (s : String) : List String :=
  (linesFrom [] s.toList).map String.ofList

end QueryClient.Text
