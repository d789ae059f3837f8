import QueryClient.Proofs.Sql.Resolved

/-!
# The history of a statement

Formats are set and a statement is read in any order. Each read gives what it gives on a fresh
statement of the same text on which nothing was done but setting the format that was set last.
-/

namespace QueryClient.Sql.Statement

variable {s s' : Statement}

/-! ## Steps -/

/-- What is read of a statement; some things can be asked for in two ways. -/
inductive Reading where
  | toSql
  | str
  | format
  | getFormat
  | text
deriving Repr, DecidableEq

/-- What is done with a statement. -/
inductive Step where
  | setFormat (format : Option String)
  | read (r : Reading)

/-- What a read gives, and the statement that it leaves. -/
def read (s : Statement) : Reading → Option String × Statement
  | .toSql | .str => (some s.toSql, s.settled)
  | .format | .getFormat => (s.format, s.settled)
  | .text => (some s.text, s)

/-- What a step gives, and the statement that it leaves. Setting a format gives nothing. -/
def perform (s : Statement) : Step → Option String × Statement
  | .setFormat format => (none, s.setFormat format)
  | .read r => s.read r

/-- What steps give one after the other. -/
def answers (s : Statement) : List Step → List (Option String)
  | [] => []
  | step :: rest => (s.perform step).1 :: (s.perform step).2.answers rest

/-- The statement that steps leave. -/
def after (s : Statement) : List Step → Statement
  | [] => s
  | step :: rest => (s.perform step).2.after rest

/-- The format that is set last, if one is set. -/
def lastFormat? : List Step → Option (Option String)
  | [] => none
  | .setFormat format :: rest => some ((lastFormat? rest).getD format)
  | .read _ :: rest => lastFormat? rest

/-- The statement on which only the last format of the steps is set. -/
def withLastOf (s : Statement) (steps : List Step) : Statement :=
  match lastFormat? steps with
  | some format => s.setFormat format
  | none => s

theorem length_answers (s : Statement) (steps : List Step) :
    (s.answers steps).length = steps.length := by
  induction steps generalizing s with
  | nil => rfl
  | cons step rest ih => simp only [answers, List.length_cons, ih]

theorem answers_append (s : Statement) (steps more : List Step) :
    s.answers (steps ++ more) = s.answers steps ++ (s.after steps).answers more := by
  induction steps generalizing s with
  | nil => rfl
  | cons step rest ih => simp only [List.cons_append, answers, after, ih]

/-! ## What steps leave -/

/-- Setting a format keeps nothing of a statement but its text. -/
theorem setFormat_congr (h : s.text = s'.text) (format : Option String) :
    s.setFormat format = s'.setFormat format := by
  obtain ⟨text, wanted, resolved⟩ := s
  obtain ⟨text', wanted', resolved'⟩ := s'
  cases h
  rfl

theorem withLastOf_setFormat (s : Statement) (format : Option String) (rest : List Step) :
    s.withLastOf (.setFormat format :: rest) = (s.setFormat format).withLastOf rest := by
  simp only [withLastOf, lastFormat?]
  cases lastFormat? rest <;> rfl

theorem Alike.withLastOf (h : s.Alike s') (steps : List Step) :
    (s.withLastOf steps).Alike (s'.withLastOf steps) := by
  unfold Statement.withLastOf
  cases lastFormat? steps with
  | none => exact h
  | some format =>
      change (s.setFormat format).Alike (s'.setFormat format)
      rw [setFormat_congr h.text]
      exact .refl _

theorem alike_read (s : Statement) (r : Reading) : (s.read r).2.Alike s := by
  cases r with
  | toSql | str | format | getFormat => exact s.alike_settled
  | text => exact .refl s

/-- A read gives the same on statements that read alike. -/
theorem Alike.read (h : s.Alike s') (r : Reading) : (s.read r).1 = (s'.read r).1 := by
  cases r with
  | toSql | str => exact congrArg some h.toSql
  | format | getFormat => exact h.format
  | text => exact congrArg some h.text

/-- Steps leave a statement that reads as if only their last format had been set. -/
theorem alike_after (s : Statement) (steps : List Step) :
    (s.after steps).Alike (s.withLastOf steps) := by
  induction steps generalizing s with
  | nil => exact .refl s
  | cons step rest ih =>
      cases step with
      | setFormat format =>
          rw [withLastOf_setFormat]
          exact ih (s.setFormat format)
      | read r => exact (ih (s.read r).2).trans ((s.alike_read r).withLastOf rest)

/-! ## Reads -/

/-- A statement over a text that is not blank has no history: whatever was set and read before, a
read gives what it gives when nothing was done but setting the last format. -/
theorem read_forgets_history {text : String} (h : Text.isBlankText text = false) :
    ∃ fresh : Statement, ofText text = .ok fresh
      ∧ ∀ (before : List Step) (r : Reading) (behind : List Step),
          (fresh.answers (before ++ .read r :: behind))[before.length]?
            = some ((fresh.withLastOf before).read r).1 := by
  refine ⟨⟨text, none, none⟩, by simp only [ofText, h, Bool.false_eq_true, ↓reduceIte], ?_⟩
  intro before r behind
  rw [answers_append, List.getElem?_append_right (Nat.le_of_eq (length_answers _ before)),
    length_answers, Nat.sub_self]
  exact congrArg some ((alike_after _ before).read r)

/-- A text that names a format itself, read before and after formats are set. -/
theorem read_forgets_history_named :
    let text := "select 1 FORMAT CSV;"
    let steps : List Step := [.read .getFormat, .setFormat (some "JSON"), .read .str,
      .setFormat (some "TSV"), .read .toSql, .setFormat none, .read .text]
    Text.isBlankText text = false
      ∧ ∃ fresh : Statement, ofText text = .ok fresh
        ∧ (fresh.answers (steps ++ [.read .format]))[7]?
          = some ((fresh.setFormat none).read .format).1
        ∧ (fresh.answers (steps.take 4 ++ [.read .format]))[4]?
            = some ((fresh.setFormat (some "TSV")).read .format).1 := by
  intro text steps
  have h : Text.isBlankText text = false := by decide
  obtain ⟨fresh, hfresh, hread⟩ := read_forgets_history h
  exact ⟨h, fresh, hfresh, hread steps .format [], hread (steps.take 4) .format []⟩

end QueryClient.Sql.Statement
