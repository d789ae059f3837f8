import QueryClient.Query.Workspace

/-!
# Clauses that fail

A clause that fails leaves the query as it was, whatever its callbacks had done by then. Turning to
a page is the exception: the rows in front of the page stay skipped when those on it cannot be
bounded.
-/

namespace QueryClient

/-! ## All or nothing -/

namespace Outcome

variable {σ τ : Type} {before : σ} {o : Outcome σ}

/-- A change that goes wrong leaves the state that it began with. -/
def Whole (before : σ) (o : Outcome σ) : Prop :=
  ∀ fault, o.fault = some fault → o.state = before

theorem whole_done (s : σ) : (done s).Whole before :=
  fun _ h => nomatch h

theorem whole_failed (fault : Fault) : (failed before fault).Whole before :=
  fun _ _ => rfl

theorem whole_ofResult (e : Except Fault σ) : (ofResult before e).Whole before := by
  cases e with
  | error fault => exact whole_failed fault
  | ok s => exact whole_done s

theorem Whole.within (h : o.Whole before) (put : σ → τ) : (o.within put).Whole (put before) :=
  fun fault hfault => congrArg put (h fault hfault)

end Outcome

open Outcome

/-- Conditions that belong to a query or a join are added as a whole or not at all. A dictionary is
added one by one only to conditions that belong to nobody. -/
theorem Filter.apply_whole {host : Host} (hhost : ∀ subqueries, host ≠ .bare subqueries)
    (cs : List Condition) (filter : Filter) (arguments : List Argument) :
    (filter.apply host cs arguments).Whole cs := by
  unfold Filter.apply
  split
  · unfold Conditions.add
    split
    · unfold Conditions.addDictionary
      split
      · exact absurd rfl (hhost _)
      · exact whole_ofResult _
    · exact whole_ofResult _
  · exact whole_ofResult _
  · exact whole_ofResult _
  · exact whole_ofResult _
  · exact whole_done _
  · exact whole_ofResult _
  · exact whole_ofResult _
  · exact whole_ofResult _
  · exact whole_ofResult _
  · exact whole_failed _

/-! ## Pages -/

namespace Query

/-- The query with a number of rows to skip, of the whole union when there is one. -/
def skipping (n : Int) (q : Query) : Query :=
  q.updateOutline fun o =>
    if q.unions.isEmpty then { o with offset := some n } else { o with unionOffset := some n }

/-- The number of rows in front of a page. -/
def rowsInFront (page perPage : Argument) : Except Fault Int := do
  countOf "offset" (.value (← page.opaqueValue.rowsBefore perPage.opaqueValue))

/-- The rows in front of a page can be skipped, but those of the page cannot be bounded. -/
structure Stuck (page perPage : Argument) (n : Int) : Prop where
  skipped : rowsInFront page perPage = .ok n
  unbounded : ∀ size, countOf "limit" perPage ≠ .ok size

theorem offset_eq (value : Argument) (q : Query) :
    q.offset value = (countOf "offset" value).map q.skipping := by
  unfold offset
  cases countOf "offset" value <;> rfl

theorem limit_of_error {value : Argument} {fault : Fault} (h : countOf "limit" value = .error fault)
    (q : Query) : q.limit value = .error fault := by
  rw [limit, h]
  rfl

theorem exists_limit {value : Argument} {n : Int} (h : countOf "limit" value = .ok n) (q : Query) :
    ∃ q', q.limit value = .ok q' := by
  rw [limit, h]
  exact ⟨_, rfl⟩

theorem forPage_of_error {page perPage : Argument} {fault : Fault}
    (h : rowsInFront page perPage = .error fault) (q : Query) :
    q.forPage page perPage = .failed q fault := by
  unfold rowsInFront at h
  unfold forPage
  cases hrows : page.opaqueValue.rowsBefore perPage.opaqueValue with
  | error fault' =>
      rw [hrows] at h
      cases h
      rfl
  | ok rows =>
      rw [hrows, ok_bind] at h
      rw [ok_bind, offset_eq, h]
      rfl

theorem forPage_of_ok {page perPage : Argument} {n : Int} (h : rowsInFront page perPage = .ok n)
    (q : Query) :
    q.forPage page perPage = .ofResult (q.skipping n) ((q.skipping n).limit perPage) := by
  unfold rowsInFront at h
  obtain ⟨rows, hrows, h⟩ := ok_of_bind h
  rw [forPage, hrows, ok_bind, offset_eq, h]
  rfl

theorem forPage_of_stuck {page perPage : Argument} {n : Int} (h : Stuck page perPage n)
    (q : Query) : ∃ fault, q.forPage page perPage = .failed (q.skipping n) fault := by
  rw [forPage_of_ok h.skipped]
  cases hsize : countOf "limit" perPage with
  | error fault =>
      rw [limit_of_error hsize]
      exact ⟨fault, rfl⟩
  | ok size => exact absurd hsize (h.unbounded size)

theorem forPage_whole {page perPage : Argument} (h : ∀ n, ¬ Stuck page perPage n) (q : Query) :
    (q.forPage page perPage).Whole q := by
  cases hrows : rowsInFront page perPage with
  | error fault =>
      rw [forPage_of_error hrows]
      exact whole_failed fault
  | ok n =>
      rw [forPage_of_ok hrows]
      cases hsize : countOf "limit" perPage with
      | error fault =>
          refine absurd ⟨hrows, fun size hok => ?_⟩ (h n)
          rw [hsize] at hok
          cases hok
      | ok size =>
          obtain ⟨q', hq'⟩ := exists_limit hsize (q.skipping n)
          rw [hq']
          exact whole_done q'

end Query

/-! ## Clauses -/

theorem Query.changeConditions_whole (q : Query)
    {change : Host → List Condition → Outcome (List Condition)}
    (h : ∀ host, (∀ subqueries, host ≠ .bare subqueries) → ∀ cs, (change host cs).Whole cs) :
    (q.changeConditions change).Whole q := by
  have howned : ∀ subqueries, q.host ≠ .bare subqueries := fun _ h => nomatch h
  obtain ⟨outline, joins, conditions, havings, unions⟩ := q
  exact (h _ howned conditions).within (Query.mk outline joins · havings unions)

/-- Every verb but one changes a query as a whole or not at all. -/
theorem Verb.onQuery_whole {verb : Verb} (hverb : verb ≠ .forPage) (g : Grammar)
    (find : Nat → Source) (q : Query) (arguments : List Argument) :
    (verb.onQuery g find q arguments).Whole q := by
  unfold Verb.onQuery
  split
  · exact Query.changeConditions_whole q fun host hhost cs => Filter.apply_whole hhost cs _ _
  · exact whole_done _
  · exact whole_done _
  · exact whole_done _
  · exact whole_done _
  · exact whole_done _
  · exact whole_ofResult _
  · exact whole_done _
  · exact whole_ofResult _
  · exact whole_ofResult _
  · exact whole_ofResult _
  · exact whole_done _
  · exact whole_ofResult _
  · exact whole_ofResult _
  · exact absurd rfl hverb
  · exact whole_ofResult _
  · exact whole_ofResult _
  · exact whole_ofResult _
  · exact whole_ofResult _
  · exact whole_done _
  · exact whole_failed _
  · exact whole_failed _
  · exact whole_failed _

theorem Verb.onQuery_forPage {g : Grammar} {find : Nat → Source} {q : Query}
    {arguments : List Argument} (h : ∀ page perPage, arguments ≠ [page, perPage]) :
    Verb.forPage.onQuery g find q arguments = .failed q .wrongKind := by
  match arguments, h with
  | [], _ | [_], _ | _ :: _ :: _ :: _, _ => rfl
  | [page, perPage], h => exact absurd rfl (h page perPage)

/-- The clause turns to a page and gets stuck after a number of rows was set to be skipped. -/
inductive Clause.GetsStuck (w : Workspace) (n : Int) : Clause → Prop where
  | forPage {operands : List Operand} {reach : Reach} {page perPage : Argument}
      (hreach : reach ≠ .joins)
      (hoperands : argumentsWith w.grammar w.find operands = .ok [page, perPage])
      (h : Query.Stuck page perPage n) : GetsStuck w n ⟨.forPage, operands, reach⟩

theorem Clause.onQuery_of_getsStuck {w : Workspace} {n : Int} {clause : Clause}
    (h : clause.GetsStuck w n) (q : Query) :
    ∃ fault, clause.onQuery w.grammar w.find q = .failed (q.skipping n) fault := by
  cases h with
  | forPage hreach hoperands h =>
      rw [Clause.onQuery, if_neg hreach, hoperands]
      exact Query.forPage_of_stuck h q

theorem Clause.onQuery_whole {w : Workspace} {clause : Clause}
    (h : ∀ n, ¬ clause.GetsStuck w n) (q : Query) :
    (clause.onQuery w.grammar w.find q).Whole q := by
  obtain ⟨verb, operands, reach⟩ := clause
  rw [Clause.onQuery]
  split
  · exact whole_failed _
  · rename_i hreach
    split
    · exact whole_failed _
    · rename_i arguments hoperands
      by_cases hverb : verb = .forPage
      · subst hverb
        by_cases hpages : ∃ page perPage, arguments = [page, perPage]
        · obtain ⟨page, perPage, rfl⟩ := hpages
          exact Query.forPage_whole (fun n hn => h n (.forPage hreach hoperands hn)) q
        · rw [Verb.onQuery_forPage fun page perPage heq => hpages ⟨page, perPage, heq⟩]
          exact whole_failed _
      · exact verb.onQuery_whole hverb _ _ q arguments

namespace Workspace

theorem set_current (w : Workspace) : w.queries.set w.current w.query = w.queries := by
  rw [query]
  cases h : w.queries[w.current]? with
  | none => exact List.set_eq_of_length_le (List.getElem?_eq_none_iff.mp h)
  | some q =>
      obtain ⟨hlt, rfl⟩ := List.getElem?_eq_some_iff.mp h
      exact List.set_getElem_self hlt

/-- A clause that fails leaves all queries as they were, unless it turned to a page and got stuck:
then the query skips the rows in front of that page, and nothing else is changed. -/
theorem failed_clause_unchanged {w : Workspace} {clause : Clause} {fault : Fault}
    (h : (w.run clause).2.fault = some fault) :
    ((∀ n, ¬ clause.GetsStuck w n) → (w.run clause).1 = w)
      ∧ ∀ n, clause.GetsStuck w n →
        (w.run clause).1 = { w with queries := w.queries.set w.current (w.query.skipping n) } := by
  unfold run at h ⊢
  cases hask : w.ask clause with
  | none =>
      rw [hask] at h
      refine ⟨fun hnot => ?_, fun n hstuck => ?_⟩
      · have hstate := Clause.onQuery_whole hnot w.query fault h
        simp only [hstate, set_current]
      · obtain ⟨fault', hfailed⟩ := Clause.onQuery_of_getsStuck hstuck w.query
        simp only [hfailed, failed]
  | some answer =>
      -- Whoever asks something changes nothing.
      refine ⟨fun _ => ?_, fun n hstuck => ?_⟩
      · cases answer <;> rfl
      · cases hstuck
        cases hask

/-- A callback that fails after it has added a condition adds nothing, and a page in front of the
first one has a number of rows in front of it. -/
theorem failed_clause_unchanged_callback :
    let w : Workspace := { queries := [Query.on (.text "t")] }
    let inner : List Clause :=
      [⟨.filter .add, [.value (.text "a"), .value (.text "="), .value (.int 1),
          .value (.text "and")], .anything⟩,
        ⟨.limit, [.value (.int (-1))], .queries⟩]
    let group : Clause := ⟨.filter .nested, [.callback inner, .value (.text "and")], .queries⟩
    let turn : Clause := ⟨.forPage, [.value (.int 0), .value (.int (-5))], .queries⟩
    (w.run group).2.fault = some (.negativeCount "limit" (-1)) ∧ (w.run group).1 = w
      ∧ (w.run turn).2.fault = some (.negativeCount "limit" (-5))
      ∧ (w.run turn).1 = { w with queries := [(Query.on (.text "t")).skipping 5] } := by
  intro w inner group turn
  have hgroup : (w.run group).2.fault = some (.negativeCount "limit" (-1)) := rfl
  have hturn : (w.run turn).2.fault = some (.negativeCount "limit" (-5)) := rfl
  have hstuck : turn.GetsStuck w 5 := by
    refine .forPage (by decide) rfl ⟨rfl, fun size h => ?_⟩
    cases h
  have hwhole (n : Int) : ¬ group.GetsStuck w n := by
    intro h
    change Clause.GetsStuck w n ⟨.filter .nested, _, _⟩ at h
    cases h
  exact ⟨hgroup, (failed_clause_unchanged hgroup).1 hwhole, hturn,
    (failed_clause_unchanged hturn).2 5 hstuck⟩

/-- A negative page size is refused when the rows in front of the page are skipped already. -/
theorem failed_clause_changed :
    let w : Workspace := { queries := [Query.on (.text "t")] }
    let turn : Clause := ⟨.forPage, [.value (.int 1), .value (.int (-1))], .queries⟩
    (w.run turn).2.fault = some (.negativeCount "limit" (-1))
      ∧ w.sql = .ok "select * from `t`" ∧ (w.run turn).1.sql = .ok "select * from `t` offset 0" :=
  ⟨rfl, rfl, rfl⟩

end Workspace

end QueryClient
