import QueryClient.Entries
import QueryClient.Text.Blank
import QueryClient.Text.Split

/-!
# Environment files

A file that sets variables, one `NAME=value` after the other. A value may stand between quotes,
where a backslash escapes the quote and, between double quotes, stands for control characters; what
stands without quotes ends at the line or where a comment begins. A reference `${NAME}` or
`${NAME:-default}` is replaced by the value of a variable. Lines that make no sense are passed over.
-/

namespace QueryClient.Config.EnvironmentFile

/-! ## Characters -/

def isLineEnd (c : Char) : Bool :=
  c == '\n' || c == '\r'

/-- White space within a line. -/
def isGap (c : Char) : Bool :=
  Text.isBlank c && !isLineEnd c

/-- The text behind white space within a line. -/
def skipGap (cs : List Char) : List Char :=
  cs.dropWhile isGap

/-- The text behind the end of the line; none when something else stands before it. -/
def lineEnd? (cs : List Char) : Option (List Char) :=
  match skipGap cs with
  | [] => some []
  | '\r' :: '\n' :: rest => some rest
  | c :: rest => if isLineEnd c then some rest else none

/-- The text behind a comment, if there is one. -/
def skipComment (cs : List Char) : List Char :=
  match skipGap cs with
  | '#' :: rest => rest.dropWhile (!isLineEnd ·)
  | _ => cs

/-- The text behind the word that marks a variable for export, if it stands there. -/
def skipExport (cs : List Char) : List Char :=
  match Text.dropLeading? "export".toList cs with
  | some (c :: rest) => if isGap c then skipGap rest else cs
  | _ => cs

/-! ## Names and values -/

/-- The text up to a closing quote, which may be escaped inside, and what follows. -/
def quotedRest (quote : Char) : List Char → Option (List Char × List Char)
  | [] => none
  | '\\' :: c :: rest =>
    if c == quote && (rest.contains quote) then
      (quotedRest quote rest).map fun (inner, after) => ('\\' :: c :: inner, after)
    else (quotedRest quote (c :: rest)).map fun (inner, after) => ('\\' :: inner, after)
  | c :: rest =>
    if c == quote then some ([], rest)
    else (quotedRest quote rest).map fun (inner, after) => (c :: inner, after)

/-- The character that a letter behind a backslash stands for. -/
def escaped? (quote c : Char) : Option Char :=
  if c == '\\' || c == '\'' then some c
  else if quote == '\'' then none
  else match c with
    | '"' => some '"'
    | 'a' => some '\x07'
    | 'b' => some '\x08'
    | 'f' => some '\x0c'
    | 'n' => some '\n'
    | 'r' => some '\r'
    | 't' => some '\t'
    | 'v' => some '\x0b'
    | _ => none

/-- Text between quotes with its escapes replaced. -/
def unescaped (quote : Char) : List Char → List Char
  | '\\' :: c :: rest =>
    match escaped? quote c with
    | some c => c :: unescaped quote rest
    | none => '\\' :: unescaped quote (c :: rest)
  | c :: rest => c :: unescaped quote rest
  | [] => []

/-- A value without quotes: up to a comment, which begins behind white space. -/
def bareValue : List Char → List Char
  | [] => []
  | c :: rest =>
    if Text.isBlank c && (rest.dropWhile Text.isBlank).head? == some '#' then []
    else c :: bareValue rest

/-- The name of a variable, and what follows. -/
def name? (cs : List Char) : Option (List Char × List Char) :=
  match cs with
  | '\'' :: rest =>
    let name := rest.takeWhile (· != '\'')
    match rest.drop name.length with
    | _ :: after => if name.isEmpty then none else some (name, after)
    | [] => none
  | _ =>
    let name := cs.takeWhile fun c => c != '=' && c != '#' && !Text.isBlank c
    if name.isEmpty then none else some (name, cs.drop name.length)

/-- The value of a variable, and what follows. -/
def value? (cs : List Char) : Option (List Char × List Char) :=
  match cs with
  | [] => some ([], [])
  | c :: rest =>
    if c == '\'' || c == '"' then
      (quotedRest c rest).map fun (inner, after) => (unescaped c inner, after)
    else
      let line := cs.takeWhile (!isLineEnd ·)
      some (Text.trimEndChars (bareValue line), cs.drop line.length)

/-- The variable that a text begins with and what follows it; without a value it is only named. -/
def binding? (cs : List Char) : Option ((String × Option String) × List Char) := do
  let (name, rest) ← name? (skipExport cs)
  let name := String.ofList name
  match skipGap rest with
  | '=' :: rest =>
    let (value, rest) ← value? (skipGap rest)
    return ((name, some (String.ofList value)), ← lineEnd? (skipComment rest))
  | rest => return ((name, none), ← lineEnd? (skipComment rest))

/-! ## References -/

/-- Replace the references in a value. -/
def expand (find : String → Option String) : List Char → List Char
  | [] => []
  | '$' :: '\x7b' :: rest =>
    let inner := rest.takeWhile (· != '\x7d')
    let name := inner.takeWhile (· != ':')
    let closed := rest.length != inner.length
    let valueOr (default : List Char) :=
      ((find (String.ofList name)).map String.toList).getD default
        ++ expand find (rest.drop (inner.length + 1))
    match closed, inner.drop name.length with
    | true, [] => valueOr []
    | true, ':' :: '-' :: default => valueOr default
    | _, _ => '$' :: '\x7b' :: expand find rest
  | c :: rest => c :: expand find rest
termination_by cs => cs.length
decreasing_by all_goals simp_wf <;> omega

/-! ## Files -/

/-- The variables of a text; `fuel` bounds the number of lines. -/
def bindings : Nat → List Char → List (String × Option String)
  | 0, _ => []
  | fuel + 1, cs =>
    let cs := cs.dropWhile Text.isBlank
    if cs.isEmpty then []
    else match binding? cs with
      | some (binding, rest) => binding :: bindings fuel rest
      | none => bindings fuel ((cs.dropWhile (!isLineEnd ·)).drop 1)

/-- The values of variables, each with the references to those around it and before it replaced;
those before it count first, also one that is only named. -/
def resolve (environment : Entries String) :
    List (String × Option String) → Entries (Option String) → Entries (Option String)
  | [], known => known
  | (name, none) :: rest, known => resolve environment rest (known.put name none)
  | (name, some value) :: rest, known =>
    let find (n : String) :=
      match known.find? n with
      | some value => some (value.getD "")
      | none => environment.find? n
    resolve environment rest
      (known.put name (some (String.ofList (expand find value.toList))))

/-- The variables that a file sets, in an environment. -/
def read (environment : Entries String) (text : String) : Entries String :=
  (resolve environment (bindings (text.length + 1) text.toList) []).filterMap
    fun (name, value) => value.map (name, ·)

end QueryClient.Config.EnvironmentFile
