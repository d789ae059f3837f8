import QueryClient.Proofs.Query.Building
import QueryClient.Proofs.Query.Confinement
import QueryClient.Proofs.Query.GroupCallbacks
import QueryClient.Proofs.Query.SharedDepth

/-!
# The order of clauses

Clauses that are about different components of a query can be run in either order: both go through
or fail as they would alone, and the query reads the same afterwards.
-/

namespace QueryClient

/-! ## Quiet clauses -/

/-- The clause asks nothing of a query, and neither does any clause in its operands. -/
def Clause.IsQuiet (clause : Clause) : Prop :=
  clause.Everywhere (fun c => c.verb.asks = false) fun _ => True

section

variable {ok : Clause → Prop} {shared : Nat → Prop}

theorem EverywhereInClauses.of_mem {clauses : List Clause}
    (h : EverywhereInClauses ok shared clauses) : ∀ c ∈ clauses, c.Everywhere ok shared := by
  induction clauses with
  | nil => exact List.forall_mem_nil _
  | cons c rest ih => exact List.forall_mem_cons.mpr ⟨h.1, ih h.2⟩

theorem Clause.Everywhere.here {clause : Clause} (h : clause.Everywhere ok shared) : ok clause := by
  obtain ⟨verb, operands, reach⟩ := clause
  simp only [Clause.Everywhere] at h
  exact h.1

theorem Clause.Everywhere.groupClauses {clause : Clause} {clauses : List Clause}
    (h : clause.Everywhere ok shared) (hclauses : clause.groupClauses? = some clauses) :
    EverywhereInClauses ok shared clauses ∧ sizeOf clauses < sizeOf clause := by
  unfold groupClauses? at hclauses
  split at hclauses
  · cases hclauses
    simp only [Clause.Everywhere, EverywhereInOperands, Operand.Everywhere] at h
    refine ⟨h.2.1, ?_⟩
    simp only [mk.sizeOf_spec, List.cons.sizeOf_spec, Operand.callback.sizeOf_spec]
    omega
  · cases hclauses
    simp only [Clause.Everywhere, EverywhereInOperands, Operand.Everywhere] at h
    refine ⟨h.2.1, ?_⟩
    simp only [mk.sizeOf_spec, List.cons.sizeOf_spec, Operand.callback.sizeOf_spec]
    omega
  · cases hclauses

/-- What holds of all clauses holds of those in groups. -/
theorem Clause.Everywhere.grouped (clause : Clause) (h : clause.Everywhere ok shared) :
    clause.Grouped ok := by
  refine .intro h.here fun clauses hclauses c hc => ?_
  have hall := h.groupClauses hclauses
  have hlt := List.sizeOf_lt_of_mem hc
  exact grouped c (hall.1.of_mem c hc)
termination_by sizeOf clause
decreasing_by omega

end

/-! ## Clauses are confined -/

variable {g : Grammar} {find find' : Nat → Source}

/-- A confined change does the same to queries that show the same in a group. -/
theorem Confined.visible {touched : List Component} {change : Query → Outcome Query}
    (h : Confined touched change) {q q' : Query}
    (hq : (Group.query q).visible = (Group.query q').visible) :
    (change q).within (fun q => (Group.query q).visible)
      = (change q').within fun q => (Group.query q).visible := by
  obtain ⟨hjoins, hwheres, hhavings, hunions⟩ := Component.visible_query_iff.mp hq
  have hempty : q.unions.isEmpty = q'.unions.isEmpty := congrArg List.isEmpty hunions
  have hstate : (Group.query (change q).state).visible = (Group.query (change q').state).visible :=
    Component.visible_query_iff.mpr ⟨h.apart q q' _ hempty hjoins, h.apart q q' _ hempty hwheres,
      h.apart q q' _ hempty hhavings, h.apart q q' _ hempty hunions⟩
  exact (Outcome.mk.injEq _ _ _ _).mpr ⟨hstate, h.fault q q'⟩

theorem buildQuery_visible {clauses : List Clause}
    (h : ∀ c ∈ clauses, ∃ touched, Confined touched (c.onQuery g find)) {q q' : Query}
    (hq : (Group.query q).visible = (Group.query q').visible) :
    (buildQuery g find clauses q).within (fun q => (Group.query q).visible)
      = (buildQuery g find clauses q').within fun q => (Group.query q).visible := by
  induction clauses generalizing q q' with
  | nil =>
      rw [buildQuery, buildQuery]
      exact congrArg (Outcome.mk · none) hq
  | cons c rest ih =>
      rw [List.forall_mem_cons] at h
      obtain ⟨⟨touched, hc⟩, hrest⟩ := h
      rw [buildQuery, buildQuery]
      exact Outcome.within_andThen (hc.visible hq) fun q q' hq => ih hrest hq

theorem Clause.confined {clause : Clause} (h : clause.Grouped fun c => c.verb.asks = false) :
    Confined clause.verb.touches (clause.onQuery g find) := by
  induction h with
  | @intro clause hquiet _ ih =>
      obtain ⟨verb, operands, reach⟩ := clause
      by_cases hreach : reach = .joins
      · have hfailed :
            Clause.onQuery g find ⟨verb, operands, reach⟩ = (.failed · .lacksMember) := by
          funext q
          rw [onQuery, if_pos hreach]
        rw [hfailed]
        exact .failed .lacksMember
      cases harguments : argumentsWith g find operands with
      | error fault =>
          have hfailed : Clause.onQuery g find ⟨verb, operands, reach⟩ = (.failed · fault) := by
            funext q
            rw [onQuery, if_neg hreach, harguments]
          rw [hfailed]
          exact .failed fault
      | ok arguments =>
          have hverb : Clause.onQuery g find ⟨verb, operands, reach⟩
              = fun q => verb.onQuery g find q arguments := by
            funext q
            rw [onQuery, if_neg hreach, harguments]
          rw [hverb]
          refine Verb.confined hquiet (fun filter callback hfilter hcallback q q' => ?_) g find
          obtain ⟨clauses, hclauses, rfl⟩ := exists_groupClauses harguments hcallback reach
          rw [← hfilter] at hclauses
          have hfresh : (Group.query (.on q.outline.table)).visible
              = (Group.query (.on q'.outline.table)).visible := rfl
          simp only [Argument.FillsAlike, Group.fresh, Host.filled, ← Outcome.result_within,
            Outcome.within_within]
          exact congrArg Outcome.result
            (buildQuery_visible (fun c hc => ⟨_, ih clauses hclauses c hc⟩) hfresh)

theorem Clause.IsQuiet.confined {clause : Clause} (h : clause.IsQuiet) (g : Grammar)
    (find : Nat → Source) :
    Confined clause.verb.touches (clause.onQuery g find) :=
  Clause.confined (Everywhere.grouped clause h)

/-! ## What shared queries stand for -/

theorem Verb.onQuery_find {verb : Verb} (h : verb.asks = false) (q : Query)
    (arguments : List Argument) :
    verb.onQuery g find q arguments = verb.onQuery g find' q arguments := by
  unfold onQuery
  split <;> first | rfl | cases h

mutual

theorem Operand.argument_find : (o : Operand) →
    o.Everywhere (fun c => c.verb.asks = false) (fun _ => True) →
      o.argumentWith g find = o.argumentWith g find'
  | .entries pairs, h => by
      simp only [Operand.Everywhere] at h
      rw [Operand.argumentWith, Operand.argumentWith, argumentsOfEntries_find pairs h]
  | .callback clauses, h => by
      simp only [Operand.Everywhere] at h
      rw [Operand.argumentWith, Operand.argumentWith, buildQuery_find clauses h,
        buildJoin_find clauses h]
  | .query clauses, h => by
      simp only [Operand.Everywhere] at h
      rw [Operand.argumentWith, Operand.argumentWith, buildQuery_find clauses h]
  | .value _, _ | .shared _, _ | .broken _, _ => by rw [Operand.argumentWith, Operand.argumentWith]

theorem argumentsOfEntries_find : (pairs : List (Value × Operand)) →
    EverywhereInEntries (fun c => c.verb.asks = false) (fun _ => True) pairs →
      argumentsOfEntries g find pairs = argumentsOfEntries g find' pairs
  | [], _ => by rw [argumentsOfEntries, argumentsOfEntries]
  | (_, operand) :: rest, h => by
      rw [argumentsOfEntries, argumentsOfEntries, Operand.argument_find operand h.1,
        argumentsOfEntries_find rest h.2]

theorem argumentsWith_find : (operands : List Operand) →
    EverywhereInOperands (fun c => c.verb.asks = false) (fun _ => True) operands →
      argumentsWith g find operands = argumentsWith g find' operands
  | [], _ => by rw [argumentsWith, argumentsWith]
  | operand :: rest, h => by
      rw [argumentsWith, argumentsWith, Operand.argument_find operand h.1,
        argumentsWith_find rest h.2]

/-- A quiet clause does the same whatever shared queries stand for. -/
theorem Clause.onQuery_find : (clause : Clause) →
    clause.Everywhere (fun c => c.verb.asks = false) (fun _ => True) →
      clause.onQuery g find = clause.onQuery g find'
  | ⟨verb, operands, reach⟩, h => by
      simp only [Clause.Everywhere] at h
      funext q
      rw [Clause.onQuery, Clause.onQuery, argumentsWith_find operands h.2]
      split
      · rfl
      · split
        · rfl
        · exact verb.onQuery_find h.1 q _

theorem Clause.onJoin_find : (clause : Clause) →
    clause.Everywhere (fun c => c.verb.asks = false) (fun _ => True) →
      clause.onJoin g find = clause.onJoin g find'
  | ⟨verb, operands, reach⟩, h => by
      simp only [Clause.Everywhere] at h
      funext subqueries j
      rw [Clause.onJoin, Clause.onJoin, argumentsWith_find operands h.2]

theorem buildQuery_find : (clauses : List Clause) →
    EverywhereInClauses (fun c => c.verb.asks = false) (fun _ => True) clauses →
      buildQuery g find clauses = buildQuery g find' clauses
  | [], _ => by
      funext q
      rw [buildQuery, buildQuery]
  | clause :: rest, h => by
      funext q
      rw [buildQuery, buildQuery, Clause.onQuery_find clause h.1, buildQuery_find rest h.2]

theorem buildJoin_find : (clauses : List Clause) →
    EverywhereInClauses (fun c => c.verb.asks = false) (fun _ => True) clauses →
      buildJoin g find clauses = buildJoin g find' clauses
  | [], _ => by
      funext subqueries j
      rw [buildJoin, buildJoin]
  | clause :: rest, h => by
      funext subqueries j
      rw [buildJoin, buildJoin, Clause.onJoin_find clause h.1, buildJoin_find rest h.2]

end

/-! ## Readings -/

namespace Reading

variable {α : Type} (r : Reading α)

/-- The reading takes no notice of what is not visible. -/
def SeesVisible : Prop :=
  ∀ q : Query, r.read (.own q.visible) = r.read (.own q)

theorem congr_all (h : ∀ id, r.read (find id) = r.read (find' id)) (s : Source) :
    r.read (s.resolve find) = r.read (s.resolve find') := by
  -- The references of a source have the trivial property, even if that is not written down.
  have hs : (s.resolve .shared).Within fun _ => True :=
    Source.within_resolve (fun id => by simp only [Source.Within]) s
  have hread := r.congr (fun id _ => h id) hs
  simpa only [Source.resolve_resolve, Source.resolve] using hread

theorem read_own_visible (hr : r.SeesVisible) {q q' : Query} (hq : q.visible = q'.visible)
    (h : ∀ id, r.read (find id) = r.read (find' id)) :
    r.read (.own (q.resolve find)) = r.read (.own (q'.resolve find')) := by
  have hsame : r.read (.own (q.resolve find)) = r.read (.own (q'.resolve find)) := by
    rw [← hr, ← Query.resolve_visible, hq, Query.resolve_visible, hr]
  have hall := r.congr_all h (.own q')
  simp only [Source.resolve] at hall
  exact hsame.trans hall

end Reading

theorem Grammar.reading_seesVisible (g : Grammar) : g.reading.SeesVisible := by
  intro q
  simp only [reading, source, query_visible]

theorem bindingsReading_seesVisible : bindingsReading.SeesVisible := by
  intro q
  simp only [bindingsReading, Source.bindings, Query.bindings_visible]

namespace Workspace

/-- Queries that are the same as far as they can be read are read alike through references. -/
theorem read_source_visible {α : Type} {r : Reading α} (hr : r.SeesVisible)
    {queries queries' : List Query}
    (h : queries.map Query.visible = queries'.map Query.visible) (depth : Nat) :
    ∀ id, r.read (source queries depth id) = r.read (source queries' depth id) := by
  induction depth with
  | zero =>
      intro id
      rw [read_source_zero, read_source_zero]
  | succ depth ih =>
      intro id
      have hid : queries[id]?.map Query.visible = queries'[id]?.map Query.visible := by
        rw [← List.getElem?_map, ← List.getElem?_map, h]
      simp only [source]
      cases hq : queries[id]? with
      | none =>
          cases hq' : queries'[id]? with
          | none => rfl
          | some q' =>
              rw [hq, hq'] at hid
              cases hid
      | some q =>
          cases hq' : queries'[id]? with
          | none =>
              rw [hq, hq'] at hid
              cases hid
          | some q' =>
              rw [hq, hq'] at hid
              exact r.read_own_visible hr (Option.some.inj hid) ih

/-! ## Running clauses -/

theorem run_quiet {clause : Clause} (h : clause.IsQuiet) (w : Workspace) :
    w.run clause
      = ({ w with
            queries := w.queries.set w.current (clause.onQuery w.grammar w.find w.query).state },
          { fault := (clause.onQuery w.grammar w.find w.query).fault }) := by
  obtain ⟨verb, operands, reach⟩ := clause
  have hasks : verb.asks = false := h.here
  have hask : w.ask ⟨verb, operands, reach⟩ = none := by
    cases verb with
    | inspect terminal => cases hasks
    | _ => rfl
  simp only [run, hask]

variable {w w' : Workspace}

/-- Two workspaces whose queries are the same as far as they can be read. -/
theorem sql_eq_of_visible (hgrammar : w.grammar = w'.grammar) (hcurrent : w.current = w'.current)
    (h : w.queries.map Query.visible = w'.queries.map Query.visible) :
    w.sql = w'.sql ∧ w.bindings = w'.bindings := by
  have hquery : w.query.visible = w'.query.visible := by
    simp only [query, hcurrent]
    have hid : w.queries[w'.current]?.map Query.visible
        = w'.queries[w'.current]?.map Query.visible := by
      rw [← List.getElem?_map, ← List.getElem?_map, h]
    cases hq : w.queries[w'.current]? <;> cases hq' : w'.queries[w'.current]? <;>
      simp_all
  have hlength : w.queries.length = w'.queries.length := by
    simpa using congrArg List.length h
  have hread {α : Type} {r : Reading α} (hr : r.SeesVisible) :
      r.read (.own (w.snapshot w.query)) = r.read (.own (w'.snapshot w'.query)) := by
    refine r.read_own_visible hr hquery fun id => ?_
    rw [find, find, hlength]
    exact read_source_visible hr h _ id
  constructor
  · have htext := hread w.grammar.reading_seesVisible
    simp only [Grammar.reading, Grammar.source] at htext
    rw [sql, sql, ← hgrammar, htext]
  · have hvalues := hread bindingsReading_seesVisible
    simp only [bindingsReading, Source.bindings] at hvalues
    exact hvalues

/-- Whether a quiet clause goes through does not depend on the queries. -/
theorem run_fault {clause : Clause} (h : clause.IsQuiet) (hgrammar : w.grammar = w'.grammar) :
    (w.run clause).2.fault = (w'.run clause).2.fault := by
  have hfind : clause.onQuery w.grammar w.find = clause.onQuery w.grammar w'.find :=
    Clause.onQuery_find clause h
  rw [run_quiet h, run_quiet h, ← hgrammar, hfind]
  exact (h.confined _ _).fault w.query w'.query

theorem run_run_quiet {a b : Clause} (ha : a.IsQuiet) (hb : b.IsQuiet)
    (hcurrent : w.current < w.queries.length) :
    ((w.run a).1.run b).1
      = { w with
          queries := w.queries.set w.current (b.onQuery w.grammar w.find
            (a.onQuery w.grammar w.find w.query).state).state } := by
  have hquery : (w.run a).1.query = (a.onQuery w.grammar w.find w.query).state := by
    rw [run_quiet ha]
    simp only [query, List.getElem?_set_self hcurrent, Option.getD_some]
  have hfind : b.onQuery (w.run a).1.grammar (w.run a).1.find = b.onQuery w.grammar w.find := by
    rw [run_quiet ha]
    exact Clause.onQuery_find b hb
  rw [run_quiet hb, hquery, hfind, run_quiet ha, List.set_set]

theorem run_of_no_query {clause : Clause} (h : clause.IsQuiet)
    (hcurrent : w.queries.length ≤ w.current) : (w.run clause).1 = w := by
  rw [run_quiet h, List.set_eq_of_length_le hcurrent]

/-- Two clauses that are about different components, neither of them about unions, can be run in
either order: each goes through or fails in the same way, and the text and the values of the query
are the same afterwards. -/
theorem clause_order_irrelevant (w : Workspace) {a b : Clause} (ha : a.IsQuiet) (hb : b.IsQuiet)
    (hapart : ∀ k ∈ a.verb.touches, k ∉ b.verb.touches)
    (hunions : Component.part .unions ∉ a.verb.touches ++ b.verb.touches) :
    let ab := (w.run a).1.run b
    let ba := (w.run b).1.run a
    ba.2.fault = (w.run a).2.fault ∧ ab.2.fault = (w.run b).2.fault
      ∧ ab.1.sql = ba.1.sql ∧ ab.1.bindings = ba.1.bindings := by
  intro ab ba
  refine ⟨run_fault ha (by rw [run_quiet hb]), run_fault hb (by rw [run_quiet ha]), ?_⟩
  rcases Nat.lt_or_ge w.current w.queries.length with hcurrent | hcurrent
  · have hfirst : ab.1 = _ := run_run_quiet ha hb hcurrent
    have hsecond : ba.1 = _ := run_run_quiet hb ha hcurrent
    rw [hfirst, hsecond]
    refine sql_eq_of_visible rfl rfl ?_
    rw [List.map_set, List.map_set]
    rw [List.mem_append, not_or] at hunions
    have hsame := (ha.confined w.grammar w.find).comm (hb.confined w.grammar w.find) hapart
      hunions.1 hunions.2 w.query
    exact congrArg _ (Component.visible_eq_of_agree hsame)
  · have hfirst : ab.1 = w := by
      simp only [ab, run_of_no_query ha hcurrent, run_of_no_query hb hcurrent]
    have hsecond : ba.1 = w := by
      simp only [ba, run_of_no_query hb hcurrent, run_of_no_query ha hcurrent]
    rw [hfirst, hsecond]
    exact ⟨rfl, rfl⟩

/-- A join with a condition of its own goes before a group of conditions even if it is added
later. -/
theorem clause_order_irrelevant_nested :
    let compare (column : String) (n : Int) (boolean : String) : Clause :=
      ⟨.filter .add, [.value (.text column), .value (.int n), .value .missing,
        .value (.text boolean)], .anything⟩
    let group : Clause := ⟨.filter .add, [.callback [compare "a" 1 "and", compare "b" 2 "or"],
      .value .missing, .value .missing, .value (.text "and")], .anything⟩
    let join : Clause := ⟨.join, [.value (.text "u"), .callback [compare "c" 3 "and"],
      .value .missing, .value .missing, .value (.text "inner"), .value (.bool false)], .queries⟩
    let w : Workspace := { queries := [{ outline := { table := .text "t" } }] }
    let ab := (w.run group).1.run join
    let ba := (w.run join).1.run group
    group.IsQuiet ∧ join.IsQuiet ∧ (∀ k ∈ group.verb.touches, k ∉ join.verb.touches)
      ∧ Component.part .unions ∉ group.verb.touches ++ join.verb.touches
      ∧ ab.2.fault = none ∧ ba.2.fault = none
      ∧ ab.1.sql.toOption
        = some "select * from `t` inner join `u` on `c` = ? where (`a` = ? or `b` = ?)"
      ∧ ab.1.sql = ba.1.sql
      ∧ ab.1.bindings = .ok [.int 3, .int 1, .int 2] ∧ ab.1.bindings = ba.1.bindings := by
  intro compare group join w ab ba
  have hcompare (column : String) (n : Int) (boolean : String) :
      (compare column n boolean).IsQuiet :=
    ⟨rfl, trivial, trivial, trivial, trivial, trivial⟩
  have hgroup : group.IsQuiet :=
    ⟨rfl, ⟨hcompare "a" 1 "and", hcompare "b" 2 "or", trivial⟩, trivial, trivial, trivial, trivial⟩
  have hjoin : join.IsQuiet :=
    ⟨rfl, trivial, ⟨hcompare "c" 3 "and", trivial⟩, trivial, trivial, trivial, trivial, trivial⟩
  have hapart : ∀ k ∈ group.verb.touches, k ∉ join.verb.touches := by decide
  have hunions : Component.part .unions ∉ group.verb.touches ++ join.verb.touches := by decide
  obtain ⟨hfirst, hsecond, hsql, hbindings⟩ :=
    clause_order_irrelevant w hgroup hjoin hapart hunions
  exact ⟨hgroup, hjoin, hapart, hunions, hsecond.trans rfl, hfirst.trans rfl, by decide +kernel,
    hsql, rfl, hbindings⟩

end Workspace

end QueryClient
