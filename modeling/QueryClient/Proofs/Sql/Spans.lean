import QueryClient.Proofs.Sql.Inert
import QueryClient.Sql.OutputFormat

/-!
# The parts of a statement

A statement as it is cut into words: literals and quoted identifiers, comments, words, and single
characters between them. The parts together are the statement.
-/

namespace QueryClient.Sql

/-! ## Parts -/

/-- A part of a statement, as cutting it into words tells parts apart. -/
inductive Span where
  | quoted (cs : List Char)
  | comment (cs : List Char)
  | word (cs : List Char)
  | other (c : Char)
deriving Repr, DecidableEq

namespace Span

def text : Span → List Char
  | quoted cs | comment cs | word cs => cs
  | other c => [c]

end Span

/-- The text of several parts. -/
def textOf (spans : List Span) : List Char :=
  spans.flatMap Span.text

theorem textOf_cons (s : Span) (ss : List Span) : textOf (s :: ss) = s.text ++ textOf ss :=
  List.flatMap_cons

/-- What stands in front of the given end of a text. -/
def upTo (after cs : List Char) : List Char :=
  cs.take (cs.length - after.length)

/-- The parts of the rest of a statement. -/
def spans : List Char → List Span
  | [] => []
  | c :: rest =>
    if isQuote c then
      have := (afterQuoted_suffix c rest).length_le
      .quoted (c :: upTo (afterQuoted c rest) rest) :: spans (afterQuoted c rest)
    else if c == '-' && rest.head? == some '-' then
      have := (afterLine_suffix rest).length_le
      .comment (c :: upTo (afterLine rest) rest) :: spans (afterLine rest)
    else if c == '/' && rest.head? == some '*' then
      have := (afterBlock_suffix rest.tail).length_le
      have : rest.tail.length ≤ rest.length := by simp
      .comment (c :: upTo (afterBlock rest.tail) rest) :: spans (afterBlock rest.tail)
    else if Text.isWordChar c then
      have := (rest.dropWhile_suffix Text.isWordChar).length_le
      .word (c :: rest.takeWhile Text.isWordChar) :: spans (rest.dropWhile Text.isWordChar)
    else .other c :: spans rest
termination_by cs => cs.length
decreasing_by all_goals simp only [List.length_cons]; omega

/-! ## The ends of words -/

/-- The text does not go on with a word. -/
def Unworded (cs : List Char) : Prop :=
  ∀ c ∈ cs.head?, Text.isWordChar c = false

theorem unworded_cons {c : Char} (h : Text.isWordChar c = false) (cs : List Char) :
    Unworded (c :: cs) := by
  intro d hd
  cases hd
  exact h

/-! ## The ends of quotes and comments -/

theorem upTo_append {after cs : List Char} (h : after <:+ cs) : upTo after cs ++ after = cs := by
  obtain ⟨before, rfl⟩ := h
  simp [upTo]

theorem upTo_self (cs : List Char) : upTo cs cs = [] := by
  simp [upTo]

theorem upTo_cons {after cs : List Char} (h : after.length ≤ cs.length) (c : Char) :
    upTo after (c :: cs) = c :: upTo after cs := by
  rw [upTo, List.length_cons, Nat.succ_sub h, List.take_succ_cons, upTo]

/-- The parts of a statement make up the statement. -/
theorem textOf_spans (cs : List Char) : textOf (spans cs) = cs := by
  fun_induction spans cs with
  | case1 => rfl
  | case2 c rest _ _ ih =>
      rw [textOf_cons, ih, Span.text, List.cons_append, upTo_append (afterQuoted_suffix c rest)]
  | case3 c rest _ _ _ ih =>
      rw [textOf_cons, ih, Span.text, List.cons_append, upTo_append (afterLine_suffix rest)]
  | case4 c rest _ _ _ _ _ ih =>
      rw [textOf_cons, ih, Span.text, List.cons_append,
        upTo_append ((afterBlock_suffix rest.tail).trans (List.tail_suffix rest))]
  | case5 c rest _ _ _ _ _ ih =>
      rw [textOf_cons, ih, Span.text, List.cons_append, List.takeWhile_append_dropWhile]
  | case6 c rest _ _ _ _ ih => rw [textOf_cons, ih, Span.text, List.singleton_append]

end QueryClient.Sql
