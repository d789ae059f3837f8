import QueryClient.Text.Blank

/-!
# Lines that hold something

The lines of a text other than blank ones. Among these it makes no difference whether a carriage
return takes a line feed along, nor whether the text ends with a line end.
-/

namespace QueryClient.Text

/-- The lines that are not blank, given the current line in reverse. -/
def fullFrom (current cs : List Char) : List (List Char) :=
  (linesFrom current cs).filter fun line => !line.all isBlank

theorem linesFrom_cons {c : Char} (h : isLineEnd c = false) (current cs : List Char) :
    linesFrom current (c :: cs) = linesFrom (c :: current) cs := by
  have hc : c ≠ '\r' := by
    rintro rfl
    exact absurd h (by decide)
  rw [linesFrom]
  · rw [if_neg (by simp [h])]
  · intros; exact hc ‹_›

theorem fullFrom_cons {c : Char} (h : isLineEnd c = false) (current cs : List Char) :
    fullFrom current (c :: cs) = fullFrom (c :: current) cs := by
  rw [fullFrom, linesFrom_cons h, fullFrom]

/-- A line end closes the current line, which counts unless it is blank. -/
theorem fullFrom_lineEnd {c : Char} (h : isLineEnd c = true) (current cs : List Char) :
    fullFrom current (c :: cs)
      = [current.reverse].filter (fun line => !line.all isBlank) ++ fullFrom [] cs := by
  unfold fullFrom
  rw [linesFrom.eq_def]
  split
  · rename_i heq; cases heq
  · rename_i rest heq
    cases heq
    have hfeed : linesFrom [] ('\n' :: rest) = [] :: linesFrom [] rest := by
      rw [linesFrom, if_pos (by decide)]
      · rfl
      · intro rest hcr
        exact absurd hcr (by decide)
    rw [hfeed, ← List.filter_append]
    simp [List.filter_cons]
  · rename_i heq
    cases heq
    rw [if_pos h, ← List.filter_append]
    rfl

theorem fullFrom_append {cs : List Char} (h : ∀ c ∈ cs, isLineEnd c = false)
    (current rest : List Char) :
    fullFrom current (cs ++ rest) = fullFrom (cs.reverse ++ current) rest := by
  induction cs generalizing current with
  | nil => rfl
  | cons c cs ih =>
      rw [List.forall_mem_cons] at h
      rw [List.cons_append, fullFrom_cons h.1, ih h.2, List.reverse_cons, List.append_assoc]
      rfl

theorem fullFrom_nil (current : List Char) :
    fullFrom current [] = [current.reverse].filter fun line => !line.all isBlank := by
  cases current with
  | nil => rfl
  | cons c current => rfl

/-- A line feed at the end makes no difference. -/
theorem fullFrom_feed (current cs : List Char) :
    fullFrom current (cs ++ ['\n']) = fullFrom current cs := by
  induction cs generalizing current with
  | nil =>
      rw [List.nil_append, fullFrom_lineEnd (by decide), fullFrom_nil, fullFrom_nil]
      exact List.append_nil _
  | cons c cs ih =>
      rw [List.cons_append]
      cases hc : isLineEnd c with
      | true => rw [fullFrom_lineEnd hc, fullFrom_lineEnd hc, ih]
      | false => rw [fullFrom_cons hc, fullFrom_cons hc, ih]

/-- A blank text has no such lines. -/
theorem fullFrom_of_blank {current cs : List Char} (hcurrent : current.all isBlank = true)
    (h : cs.all isBlank = true) : fullFrom current cs = [] := by
  have hreverse (current : List Char) (h : current.all isBlank = true) :
      [current.reverse].filter (fun line => !line.all isBlank) = [] := by
    simp [h]
  induction cs generalizing current with
  | nil => rw [fullFrom_nil, hreverse current hcurrent]
  | cons c cs ih =>
      rw [List.all_cons, Bool.and_eq_true] at h
      cases hc : isLineEnd c with
      | true =>
          rw [fullFrom_lineEnd hc, hreverse current hcurrent, List.nil_append]
          exact ih rfl h.2
      | false =>
          rw [fullFrom_cons hc]
          exact ih (by rw [List.all_cons, h.1, hcurrent]; rfl) h.2

end QueryClient.Text
