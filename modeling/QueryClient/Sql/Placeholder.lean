import QueryClient.Sql.OutputFormat

/-!
# Placeholders

A question mark is a placeholder when it stands outside string literals and quoted identifiers.
Whether it does is told by a small machine that reads the text once; inside quotes a backslash
takes the next character along.
-/

namespace QueryClient.Sql

/-- Where a reader of SQL stands. -/
inductive Region where
  /-- Outside quotes. -/
  | code
  /-- Inside a region that ends with the given quote. -/
  | quoted (quote : Char)
  /-- Behind a backslash in such a region. -/
  | escaped (quote : Char)
deriving Repr, DecidableEq

/-- Read one character. -/
def Region.step : Region → Char → Region
  | .code, c => if isQuote c then .quoted c else .code
  | .quoted quote, c =>
    if c = '\\' then .escaped quote else if c = quote then .code else .quoted quote
  | .escaped quote, _ => .quoted quote

/-- Read a text. -/
def Region.run (r : Region) (cs : List Char) : Region :=
  cs.foldl Region.step r

@[simp] theorem Region.run_nil (r : Region) : r.run [] = r := rfl

@[simp] theorem Region.run_cons (r : Region) (c : Char) (cs : List Char) :
    r.run (c :: cs) = (r.step c).run cs := rfl

theorem Region.run_append (r : Region) (cs ds : List Char) :
    r.run (cs ++ ds) = (r.run cs).run ds := List.foldl_append

/-- The character is a placeholder where the reader stands. -/
def Region.isPlaceholder (r : Region) (c : Char) : Bool :=
  r == .code && c == '?'

/-- The pieces of a text between its placeholders. -/
def pieces (r : Region) : List Char → List (List Char)
  | [] => [[]]
  | c :: rest =>
    if r.isPlaceholder c then [] :: pieces (r.step c) rest
    else match pieces (r.step c) rest with
      | piece :: more => (c :: piece) :: more
      | [] => [[c]]

/-- The number of placeholders in a text. -/
def placeholderCount (r : Region) : List Char → Nat
  | [] => 0
  | c :: rest => (if r.isPlaceholder c then 1 else 0) + placeholderCount (r.step c) rest

/-- The positions of the placeholders of a text that starts at the given position. -/
def placeholderPositions (r : Region) (start : Nat) : List Char → List Nat
  | [] => []
  | c :: rest =>
    let later := placeholderPositions (r.step c) (start + 1) rest
    if r.isPlaceholder c then start :: later else later

theorem pieces_ne_nil (r : Region) (cs : List Char) : pieces r cs ≠ [] := by
  cases cs with
  | nil => simp [pieces]
  | cons c rest =>
    simp only [pieces]
    split
    · simp
    · split <;> simp

theorem length_pieces (r : Region) (cs : List Char) :
    (pieces r cs).length = placeholderCount r cs + 1 := by
  induction cs generalizing r with
  | nil => rfl
  | cons c rest ih =>
    have h := ih (r.step c)
    simp only [pieces, placeholderCount]
    split
    · simp [h]; omega
    · split
      · next heq => simp [heq] at h; simp [h]
      · next heq => exact absurd heq (pieces_ne_nil _ _)

end QueryClient.Sql
