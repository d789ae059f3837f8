import QueryClient.Proofs.Query.GroupCallbacks
import QueryClient.Query.Call

/-!
# Conditions of joins and of queries

The calls that a join takes as well as a query add the same conditions to both. The text and the
values of these are the same, only the word in front of them differs.
-/

namespace QueryClient

/-- The steps that add conditions to joins as well as to queries. -/
def commonNames : List String :=
  ["where", "or_where", "where_raw", "where_in", "where_not_in", "where_null", "where_not_null"]

/-- The clause is a call of such a step. -/
def Clause.IsCommon (clause : Clause) : Prop :=
  ∃ call : Call, call.name ∈ commonNames ∧ call.clause = clause

theorem Signature.find?_of_common {name : String} (h : name ∈ commonNames) :
    ∃ s filter, Signature.all.find? (·.name == name) = some s ∧ s.verb = .filter filter
      ∧ s.reach = .anything := by
  simp only [commonNames, List.mem_cons, List.not_mem_nil, or_false] at h
  rcases h with rfl | rfl | rfl | rfl | rfl | rfl | rfl <;> exact ⟨_, _, rfl, rfl, rfl⟩

/-- A common call can be made on anything, and adds a condition or is refused. -/
theorem Clause.IsCommon.verb {clause : Clause} (h : clause.IsCommon) :
    clause.reach = .anything
      ∧ ((∃ filter, clause.verb = .filter filter) ∨ ∃ fault, clause.verb = .refuse fault) := by
  obtain ⟨call, hname, rfl⟩ := h
  obtain ⟨s, filter, hs, hverb, hreach⟩ := Signature.find?_of_common hname
  simp only [Call.clause, hs, Signature.clause]
  cases s.operands? false call with
  | none => exact ⟨hreach, .inr ⟨_, rfl⟩⟩
  | some operands => exact ⟨hreach, .inl ⟨filter, hverb⟩⟩

variable {g : Grammar} {find : Nat → Source} {clauses : List Clause}

/-- What clauses do alike, one by one, they do alike in a row. -/
theorem buildJoin_visible
    (h : ∀ c ∈ clauses, ∀ (j : Join) (q : Query), (Group.join j).visible = (Group.query q).visible →
      (c.onJoin g find true j).within (fun j => (Group.join j).visible)
        = (c.onQuery g find q).within fun q => (Group.query q).visible)
    {j : Join} {q : Query} (hjq : (Group.join j).visible = (Group.query q).visible) :
    (buildJoin g find clauses true j).within (fun j => (Group.join j).visible)
      = (buildQuery g find clauses q).within fun q => (Group.query q).visible := by
  induction clauses generalizing j q with
  | nil =>
      rw [buildJoin, buildQuery, Outcome.within, Outcome.within]
      exact congrArg (Outcome.mk · none) hjq
  | cons c rest ih =>
      rw [List.forall_mem_cons] at h
      rw [buildJoin, buildQuery]
      exact Outcome.within_andThen (h.1 j q hjq) fun j q hjq => ih h.2 hjq

/-- Clauses that do alike fill in a group of a join and one of a query alike. -/
theorem fillsAlike_of_clauses
    (h : ∀ c ∈ clauses, ∀ (j : Join) (q : Query), (Group.join j).visible = (Group.query q).visible →
      (c.onJoin g find true j).within (fun j => (Group.join j).visible)
        = (c.onQuery g find q).within fun q => (Group.query q).visible) (j : Join) (q : Query) :
    (Argument.callback (buildQuery g find clauses) (buildJoin g find clauses)).FillsAlike
      (.join j) (.query q) := by
  have hfresh : (Group.join { kind := j.kind, table := j.table }).visible
      = (Group.query (.on q.outline.table)).visible := rfl
  simp only [Argument.FillsAlike, Group.host, Group.fresh, Host.filled, ← Outcome.result_within,
    Outcome.within_within]
  exact congrArg Outcome.result (buildJoin_visible h hfresh)

/-- A common call does the same to a join as to a query that shows the same conditions. -/
theorem Clause.onJoin_visible {clause : Clause} (h : clause.Grouped IsCommon) :
    ∀ (j : Join) (q : Query), (Group.join j).visible = (Group.query q).visible →
      (clause.onJoin g find true j).within (fun j => (Group.join j).visible)
        = (clause.onQuery g find q).within fun q => (Group.query q).visible := by
  induction h with
  | @intro clause hcommon _ ih =>
      intro j q hjq
      obtain ⟨verb, operands, reach⟩ := clause
      obtain ⟨rfl, hverb⟩ := hcommon.verb
      have hfailed (fault : Fault) :
          (Outcome.failed j fault).within (fun j => (Group.join j).visible)
            = (Outcome.failed q fault).within fun q => (Group.query q).visible :=
        congrArg (Outcome.mk · (some fault)) hjq
      rw [onJoin, onQuery, if_neg (by decide), if_neg (by decide)]
      cases harguments : argumentsWith g find operands with
      | error fault => exact hfailed fault
      | ok arguments =>
          rcases hverb with ⟨filter, rfl⟩ | ⟨fault, rfl⟩
          · refine Filter.changed_visible hjq fun callback hcallback => ?_
            obtain ⟨clauses, hclauses, rfl⟩ := exists_groupClauses harguments hcallback .anything
            exact fillsAlike_of_clauses (ih clauses hclauses) j q
          · exact hfailed fault

/-! ## The language of conditions -/

/-- The conditions of a group without the word in front of them, if there are any. -/
def Grammar.body (g : Grammar) (m : Group) : Except Fault (Option String) :=
  (g.group m).map fun parts => if parts.isEmpty then none else some (sequenced parts)

/-- Conditions behind a word with its space; nothing when there are none. -/
def prefixed (word : String) (body : Option String) : String :=
  (body.map (word ++ ·)).getD ""

theorem Grammar.wheres_join (g : Grammar) (j : Join) :
    g.wheres (.join j) = (g.body (.join j)).map (prefixed "on ") := by
  rw [wheres, body]
  cases g.group (.join j) with
  | error fault => rfl
  | ok parts => cases parts <;> rfl

theorem Grammar.wheres_query (g : Grammar) (q : Query) :
    g.wheres (.query q) = (g.body (.query q)).map (prefixed "where ") := by
  rw [wheres, body]
  cases g.group (.query q) with
  | error fault => rfl
  | ok parts => cases parts <;> rfl

/-- The same calls on a new join and on a new query fail alike, and they leave conditions that are
written alike behind their words and bind the same values, whatever shared queries stand for. -/
theorem conditions_same_language (g : Grammar) (find found : Nat → Source) (kind : String)
    (table : Value) (h : ∀ c ∈ clauses, c.Grouped Clause.IsCommon) :
    let onJoin := buildJoin g find clauses true { kind, table }
    let onQuery := buildQuery g find clauses {}
    onJoin.fault = onQuery.fault
      ∧ (∃ body : Except Fault (Option String),
        g.wheres (.join (onJoin.state.resolve found)) = body.map (prefixed "on ")
          ∧ g.wheres (.query (onQuery.state.resolve found)) = body.map (prefixed "where "))
      ∧ (onJoin.state.resolve found).bindings = (onQuery.state.resolve found).bindings := by
  intro onJoin onQuery
  have hempty : (Group.join { kind, table }).visible = (Group.query {}).visible := rfl
  have hsame : onJoin.within (fun j => (Group.join j).visible)
      = onQuery.within fun q => (Group.query q).visible :=
    buildJoin_visible (fun c hc => Clause.onJoin_visible (h c hc)) hempty
  obtain ⟨hstate, hfault⟩ := Outcome.mk.inj hsame
  have hresolved : (Group.join (onJoin.state.resolve found)).visible
      = (Group.query (onQuery.state.resolve found)).visible := by
    have hboth := congrArg (Group.resolve found) hstate
    simpa only [Group.resolve_visible, Group.resolve] using hboth
  refine ⟨hfault, ⟨_, Grammar.wheres_join g _, ?_⟩, ?_⟩
  · rw [Grammar.wheres_query, Grammar.body, Grammar.body, ← Grammar.group_visible, ← hresolved,
      Grammar.group_visible]
  · have hvalues := congrArg Group.bindings hresolved
    simpa only [Group.bindings_visible, Group.bindings] using hvalues

/-- A clause of a common call that adds no group. -/
theorem Clause.Grouped.of_call {call : Call} (hname : call.name ∈ commonNames)
    (hgroup : call.clause.groupClauses? = none) : call.clause.Grouped IsCommon := by
  refine .intro ⟨call, hname, rfl⟩ fun clauses hclauses => ?_
  rw [hgroup] at hclauses
  cases hclauses

/-- A group with an inner query in it, and a list. -/
theorem conditions_same_language_nested :
    let rows : List Clause := [
      Call.clause { name := "from_", arguments := [.value (.text "u")] },
      Call.clause { name := "where", arguments := [.value (.text "c"), .value (.int 2)] }]
    let inner : List Clause := [
      Call.clause { name := "where", arguments := [.value (.text "a"), .value (.int 1)] },
      Call.clause { name := "or_where", arguments := [.value (.text "b"), .callback rows] }]
    let clauses : List Clause := [
      Call.clause { name := "where", arguments := [.callback inner] },
      Call.clause { name := "where_in",
                    arguments := [.value (.text "d"), .value (.list [.int 3, .int 4])] }]
    let onJoin := buildJoin {} .shared clauses true { kind := "inner", table := .text "t" }
    let onQuery := buildQuery {} .shared clauses {}
    (∀ c ∈ clauses, c.Grouped Clause.IsCommon)
      ∧ onQuery.fault = none
      ∧ (Grammar.wheres {} (.join (onJoin.state.resolve .shared))).toOption
        = some "on (`a` = ? or `b` = (select * from `u` where `c` = ?)) and `d` in (?, ?)"
      ∧ (Grammar.wheres {} (.query (onQuery.state.resolve .shared))).toOption
        = some "where (`a` = ? or `b` = (select * from `u` where `c` = ?)) and `d` in (?, ?)"
      ∧ (onQuery.state.resolve .shared).bindings = .ok [.int 1, .int 2, .int 3, .int 4] := by
  intro rows inner clauses onJoin onQuery
  have hinner : ∀ c ∈ inner, c.Grouped Clause.IsCommon := by
    simp only [inner, List.forall_mem_cons]
    exact ⟨.of_call (by decide) rfl, .of_call (by decide) rfl, List.forall_mem_nil _⟩
  have h : ∀ c ∈ clauses, c.Grouped Clause.IsCommon := by
    simp only [clauses, List.forall_mem_cons]
    refine ⟨.intro ⟨_, by decide, rfl⟩ fun clauses hclauses => ?_, .of_call (by decide) rfl,
      List.forall_mem_nil _⟩
    cases hclauses
    exact hinner
  obtain ⟨hfault, -, hbindings⟩ :=
    conditions_same_language {} .shared .shared "inner" (.text "t") h
  exact ⟨h, hfault.symm.trans rfl, by decide +kernel, by decide +kernel, hbindings.symm.trans rfl⟩

end QueryClient
