import QueryClient.Proofs.Query.Clone
import QueryClient.Proofs.Query.WellFormed
import QueryClient.Query.Call

/-!
# Calls keep queries well-formed

Whatever steps are called by name, in callbacks and inner queries as well, every query of a
workspace is well-formed at any depth. Whether a step goes through does not matter.
-/

namespace QueryClient

/-! ## Calls -/

/-- The clause is a call of a step by name; setting a part of a query directly is none. -/
def Clause.IsCall (clause : Clause) : Prop :=
  ∃ call : Call, call.name ≠ "@model" ∧ call.clause = clause

theorem Signature.isOrdinary_verb : ∀ s ∈ Signature.all, s.verb.isOrdinary = true := by
  decide

theorem Clause.IsCall.isOrdinary {clause : Clause} (h : clause.IsCall) :
    clause.verb.isOrdinary = true := by
  obtain ⟨call, hname, rfl⟩ := h
  unfold Call.clause
  split
  · rename_i signature hfound
    unfold Signature.clause
    split
    · exact Signature.isOrdinary_verb signature (List.mem_of_find?_eq_some hfound)
    · rfl
  · split
    · contradiction
    · split <;> rfl

namespace Workspace

/-! ## Steps -/

variable {w : Workspace} {p : Value → Prop} {ok : Clause → Prop}

theorem obeys_source {queries : List Query} (h : ∀ q ∈ queries, q.Obeys (.wellFormed p))
    (depth id : Nat) : (source queries depth id).Obeys (.wellFormed p) := by
  induction depth generalizing id with
  | zero => simp only [source, Source.Obeys, Rule.wellFormed]
  | succ depth ih =>
      rw [source]
      split
      · rename_i q hq
        rw [Source.Obeys]
        exact Query.Obeys.resolve (wellFormed_resolves ih) q (h q (List.mem_of_getElem? hq))
      · simp only [Source.Obeys, Rule.wellFormed]

theorem obeys_snapshot (hw : ∀ q ∈ w.queries, q.Obeys (.wellFormed p)) {q : Query}
    (hq : q.Obeys (.wellFormed p)) : (w.snapshot q).Obeys (.wellFormed p) :=
  Query.Obeys.resolve (wellFormed_resolves (obeys_source hw _)) q hq

theorem obeys_start : ∀ q ∈ [({} : Query)], q.Obeys (.wellFormed p) := by
  rw [List.forall_mem_singleton]
  exact Query.obeys_on wellFormed_allowsTables .null

theorem obeys_getD (hw : ∀ q ∈ w.queries, q.Obeys (.wellFormed p)) (id : Nat) :
    ((w.queries[id]?).getD {}).Obeys (.wellFormed p) := by
  cases h : w.queries[id]? with
  | none => exact Query.obeys_on wellFormed_allowsTables .null
  | some q => exact hw q (List.mem_of_getElem? h)

theorem obeys_step (hok : ∀ c, ok c → c.Respects (.wellFormed p))
    (hw : ∀ q ∈ w.queries, q.Obeys (.wellFormed p)) {s : Step}
    (hs : ∀ c, s = .clause c → c.Everywhere ok fun _ => True) :
    ∀ q ∈ (w.step s).1.queries, q.Obeys (.wellFormed p) := by
  cases s with
  | clause clause =>
      rw [step]
      rcases w.run_eq clause with h | h
      · rwa [h]
      · rw [h]
        intro q hq
        rcases List.mem_or_eq_of_mem_set hq with h | rfl
        · exact hw q h
        · exact Clause.onQuery_obeys wellFormed_allowsTables hok clause (hs clause rfl) _
            (obeys_getD hw w.current)
  | clone name =>
      refine List.forall_mem_append.mpr ⟨hw, List.forall_mem_map.mpr fun i _ => ?_⟩
      refine Query.Obeys.resolve (wellFormed_resolves fun id => ?_) _ (obeys_getD hw i)
      simp only [Source.Obeys, Rule.wellFormed]
  | fresh name => exact List.forall_mem_append.mpr ⟨hw, obeys_start⟩
  | use name =>
      rw [step]
      split <;> exact hw
  | disable kind => exact hw

/-- The workspace after a number of steps, one after the other. -/
def after (w : Workspace) (steps : List Step) : Workspace :=
  steps.foldl (fun w s => (w.step s).1) w

theorem obeys_after (hok : ∀ c, ok c → c.Respects (.wellFormed p)) {steps : List Step}
    (hw : ∀ q ∈ w.queries, q.Obeys (.wellFormed p))
    (hsteps : ∀ c, .clause c ∈ steps → c.Everywhere ok fun _ => True) :
    ∀ q ∈ (w.after steps).queries, q.Obeys (.wellFormed p) := by
  induction steps generalizing w with
  | nil => exact hw
  | cons s steps ih =>
      refine ih (obeys_step hok hw fun c hc => hsteps c ?_) fun c hc => hsteps c ?_
      · exact hc ▸ List.mem_cons_self
      · exact List.mem_cons_of_mem s hc

/-! ## Runs -/

/-- Whatever is called from an empty query on, every query is well-formed at any depth: operators
and functions are those of the lists, orders have a direction, no bound is negative, and no group is
empty, nor shows in the text as an empty pair of parentheses unless it is one condition of empty
SQL. -/
theorem calls_wellFormed {g : Grammar} {steps : List Step}
    (h : ∀ c, .clause c ∈ steps → c.Everywhere Clause.IsCall fun _ => True) :
    ∀ q ∈ (after { grammar := g } steps).queries,
      ((after { grammar := g } steps).snapshot q).Obeys (.wellFormed fun _ => True) := by
  have hok (c : Clause) (hc : c.IsCall) : c.Respects (.wellFormed fun _ => True) :=
    fun _ _ _ _ => Verb.respects_wellFormed hc.isOrdinary (fun _ _ _ _ => trivial)
      fun _ _ => trivial
  have hqueries := obeys_after (w := { grammar := g }) hok obeys_start h
  exact fun q hq => obeys_snapshot hqueries (hqueries q hq)

/-- A group with a comparison whose operator is written in capital letters. -/
theorem calls_wellFormed_group :
    let inner : Clause := ⟨.filter .add, [.value (.text "a"), .value (.text "LIKE"),
      .value (.text "x"), .value (.text "and")], .anything⟩
    let group : Clause := ⟨.filter .nested, [.callback [inner], .value (.text "and")], .queries⟩
    let steps : List Step := [.clause ⟨.fromTable, [.value (.text "t")], .anything⟩, .clause group]
    (∀ c, .clause c ∈ steps → c.Everywhere Clause.IsCall fun _ => True)
      ∧ ∀ q ∈ (after {} steps).queries,
        ((after {} steps).snapshot q).Obeys (.wellFormed fun _ => True) := by
  intro inner group steps
  have hinner : inner.IsCall :=
    ⟨⟨"where", [.value (.text "a"), .value (.text "LIKE"), .value (.text "x")], []⟩,
      by decide, rfl⟩
  have hgroup : group.IsCall :=
    ⟨⟨"where_nested", [.callback [inner]], []⟩, by decide, rfl⟩
  have htable : Clause.IsCall ⟨.fromTable, [.value (.text "t")], .anything⟩ :=
    ⟨⟨"table", [.value (.text "t")], []⟩, by decide, rfl⟩
  have hsteps : ∀ c, .clause c ∈ steps → c.Everywhere Clause.IsCall fun _ => True := by
    intro c hc
    simp only [steps, List.mem_cons, Step.clause.injEq, List.not_mem_nil, or_false] at hc
    rcases hc with rfl | rfl
    · exact ⟨htable, trivial, trivial⟩
    · exact ⟨hgroup, ⟨⟨hinner, trivial, trivial, trivial, trivial, trivial⟩, trivial⟩, trivial,
        trivial⟩
  exact ⟨hsteps, calls_wellFormed hsteps⟩

/-- A group of raw SQL without text is an empty pair of parentheses. -/
theorem group_shown_empty :
    let inner : Clause := ⟨.filter .sql, [.value (.text ""), .value .null, .value (.text "and")],
      .anything⟩
    let group : Clause := ⟨.filter .nested, [.callback [inner], .value (.text "and")], .queries⟩
    inner.IsCall ∧ group.IsCall
      ∧ (after {} [.clause ⟨.fromTable, [.value (.text "t")], .anything⟩, .clause group]).sql
        = .ok "select * from `t` where ()" := by
  intro inner group
  refine ⟨⟨⟨"where_raw", [.value (.text "")], []⟩, by decide, rfl⟩, ?_, by decide +kernel⟩
  exact ⟨⟨"where_nested", [.callback [inner]], []⟩, by decide, rfl⟩

end Workspace

end QueryClient
