import QueryClient.Text.Blank
import QueryClient.Text.Word
import QueryClient.Text.Case

/-!
# The output format that a statement names

A statement may end with a clause such as `FORMAT JSON`. This module cuts SQL into words, leaving
out string literals, quoted identifiers and comments, and finds the first place where the word
`format` is followed, across white space only, by the name of a format.
-/

namespace QueryClient.Sql

/-! ## Formats -/

/-- The formats a statement can name. -/
def outputFormats : List String :=
  ["TSVRaw", "TSVWithNamesAndTypes", "TSVWithNames", "TSV", "Vertical", "JSONCompact",
   "JSONEachRow", "TSKV", "TabSeparatedWithNames", "TabSeparatedWithNamesAndTypes",
   "TabSeparatedRaw", "BlockTabSeparated", "CSVWithNames", "CSV", "JSON", "TabSeparated"]

/-- The format with the given name in any case. -/
def formatNamed? (name : String) : Option String :=
  let small := Text.lower name
  outputFormats.find? fun format => Text.lower format == small

/-! ## Words -/

/-- A character that opens and closes a literal or a quoted identifier. -/
def isQuote (c : Char) : Bool :=
  c == '\'' || c == '"' || c == '\x60'

/-- What follows a quoted region, given its quote; a backslash takes the next character along. -/
def afterQuoted (quote : Char) : List Char → List Char
  | [] => []
  | ['\\'] => []
  | '\\' :: _ :: rest => afterQuoted quote rest
  | c :: rest => if c == quote then rest else afterQuoted quote rest

/-- What follows a comment that ends with its line. -/
def afterLine : List Char → List Char
  | [] => []
  | c :: rest => if c == '\n' then rest else afterLine rest

/-- What follows a comment that ends with a star and a slash. -/
def afterBlock : List Char → List Char
  | [] => []
  | '*' :: '/' :: rest => rest
  | _ :: rest => afterBlock rest

theorem afterQuoted_suffix (quote : Char) (cs : List Char) : afterQuoted quote cs <:+ cs := by
  fun_induction afterQuoted quote cs with
  | case1 | case2 => exact List.nil_suffix
  | case3 c rest ih => exact ih.trans ⟨['\\', c], rfl⟩
  | case4 c rest => exact List.suffix_cons c rest
  | case5 c rest _ _ _ ih => exact ih.trans (List.suffix_cons c rest)

theorem afterLine_suffix (cs : List Char) : afterLine cs <:+ cs := by
  fun_induction afterLine cs with
  | case1 => exact List.nil_suffix
  | case2 c rest => exact List.suffix_cons c rest
  | case3 c rest _ ih => exact ih.trans (List.suffix_cons c rest)

theorem afterBlock_suffix (cs : List Char) : afterBlock cs <:+ cs := by
  fun_induction afterBlock cs with
  | case1 => exact List.nil_suffix
  | case2 rest => exact ⟨['*', '/'], rfl⟩
  | case3 c rest _ ih => exact ih.trans (List.suffix_cons c rest)

/-- A word, and whether only white space separates it from the word before. -/
structure Word where
  text : List Char
  adjacent : Bool
deriving Repr, DecidableEq

/-- The words of the rest of a statement; `adjacent` tells what came since the last word. -/
def wordsFrom (adjacent : Bool) : List Char → List Word
  | [] => []
  | c :: rest =>
    if isQuote c then
      have := (afterQuoted_suffix c rest).length_le
      wordsFrom false (afterQuoted c rest)
    else if c == '-' && rest.head? == some '-' then
      have := (afterLine_suffix rest).length_le
      wordsFrom false (afterLine rest)
    else if c == '/' && rest.head? == some '*' then
      have := (afterBlock_suffix rest.tail).length_le
      have : rest.tail.length ≤ rest.length := by simp
      wordsFrom false (afterBlock rest.tail)
    else if Text.isWordChar c then
      have := (rest.dropWhile_suffix Text.isWordChar).length_le
      ⟨c :: rest.takeWhile Text.isWordChar, adjacent⟩
        :: wordsFrom true (rest.dropWhile Text.isWordChar)
    else wordsFrom (adjacent && Text.isBlank c) rest
termination_by cs => cs.length
decreasing_by all_goals simp only [List.length_cons]; omega

/-- The words of a statement outside literals, quoted identifiers and comments. -/
def wordsOf (sql : List Char) : List Word :=
  wordsFrom false sql

/-! ## The format clause -/

def Word.isFormat (w : Word) : Bool :=
  Text.lower (String.ofList w.text) == "format"

/-- The format named first, given the word before. -/
def formatAfter? (previous : Option Word) : List Word → Option String
  | [] => none
  | w :: rest =>
    if w.adjacent && previous.any Word.isFormat then
      match formatNamed? (String.ofList w.text) with
      | some format => some format
      | none => formatAfter? (some w) rest
    else formatAfter? (some w) rest

/-- The format that a statement names. -/
def findFormat? (sql : String) : Option String :=
  formatAfter? none (wordsOf sql.toList)

end QueryClient.Sql
