import QueryClient.Proofs.Query.Additions
import QueryClient.Proofs.Query.Rules

/-!
# Building keeps to a rule

Whatever clauses are run on a query, the query goes on obeying a rule when what each of them adds
does.
-/

namespace QueryClient

variable {r : Rule}

/-- A query with another outline has the same parts otherwise. -/
theorem Query.PartsObey.outline {q q' : Query} (h : q.PartsObey r)
    (hparts : (q'.joins, q'.conditions, q'.havings, q'.unions)
      = (q.joins, q.conditions, q.havings, q.unions)) : q'.PartsObey r := by
  simp only [Prod.mk.injEq] at hparts
  unfold Query.PartsObey at h ⊢
  rw [hparts.1, hparts.2.1, hparts.2.2.1, hparts.2.2.2]
  exact h

/-! ## Arguments -/

/-- What an argument stands for or makes obeys the rule. -/
inductive Argument.Obeys (r : Rule) : Argument → Prop where
  | value (v : Value) : Obeys r (.value v)
  | entries {pairs : List (Value × Argument)} (h : ∀ e ∈ pairs, Obeys r e.2) :
      Obeys r (.entries pairs)
  | callback {onQuery : Query → Outcome Query} {onJoin : Bool → Join → Outcome Join}
      (hquery : ∀ q, q.Obeys r → (onQuery q).state.Obeys r)
      (hjoin : ∀ subqueries j, j.Obeys r → (onJoin subqueries j).state.Obeys r) :
      Obeys r (.callback onQuery onJoin)
  | query {source : Source} (h : source.Obeys r) : Obeys r (.query source)

theorem prepared_obeys {operator value value' : Argument} {named : String}
    (hoperator : operator.Obeys r) (hvalue : value.Obeys r)
    (h : prepared operator value = .ok (named, value')) : value'.Obeys r := by
  rw [(prepared_eq_ok h).2.1, compared]
  split
  · exact hoperator
  · exact hvalue

theorem Argument.Obeys.of_entries? {a : Argument} {pairs : List (Value × Argument)}
    (ha : a.Obeys r) (h : a.entries? = some pairs) : ∀ e ∈ pairs, e.2.Obeys r := by
  unfold Argument.entries? at h
  split at h
  · cases h
    cases ha with
    | entries hpairs => exact hpairs
  · cases h
    intro e he
    obtain ⟨_, -, rfl⟩ := List.mem_map.mp he
    exact .value _
  · cases h

namespace Host

variable {host : Host} {a : Argument}

theorem source_obeys (hr : r.AllowsTables) {s : Source} (ha : a.Obeys r)
    (h : host.source a = .ok s) : s.Obeys r := by
  cases ha with
  | value v =>
      cases h
      simp only [Source.Obeys]
  | entries hpairs =>
      cases h
      simp only [Source.Obeys]
  | callback hquery hjoin =>
      simp only [source] at h
      split at h
      · rename_i onQuery _ _
        cases hresult : (onQuery {}).result with
        | error fault => rw [hresult] at h; cases h
        | ok q =>
            rw [hresult] at h
            cases h
            rw [Source.Obeys, ← Outcome.state_of_result hresult]
            exact hquery _ (Query.obeys_on hr .null)
      · cases h
  | query hs =>
      cases h
      exact hs

theorem filled_obeys {fresh members : Group} (ha : a.Obeys r) (hfresh : fresh.Obeys r)
    (h : host.filled a fresh = .ok members) : members.Obeys r := by
  cases ha with
  | value v | entries hpairs | query hs => cases fresh <;> cases h
  | @callback onQuery onJoin hquery hjoin =>
      cases fresh with
      | query q =>
          simp only [Group.Obeys] at hfresh
          simp only [filled] at h
          cases hresult : (onQuery q).result with
          | error fault => rw [hresult] at h; cases h
          | ok q' =>
              rw [hresult] at h
              cases h
              rw [Group.Obeys, ← Outcome.state_of_result hresult]
              exact hquery q hfresh
      | join j =>
          simp only [Group.Obeys] at hfresh
          simp only [filled] at h
          cases hresult : (onJoin host.allowsSubqueries j).result with
          | error fault => rw [hresult] at h; cases h
          | ok j' =>
              rw [hresult] at h
              cases h
              rw [Group.Obeys, ← Outcome.state_of_result hresult]
              exact hjoin _ j hfresh

theorem group?_obeys (hr : r.AllowsTables) {cs : List Condition} {members : Group}
    (hcs : ConditionsObey r cs) (h : host.group? cs = some members) : members.Obeys r := by
  cases host with
  | query table =>
      cases h
      simp only [Query.on, Group.Obeys, Query.Obeys, JoinsObey, ConditionsObey, UnionsObey]
      exact ⟨hr table, trivial, hcs, trivial, trivial⟩
  | join kind table subqueries =>
      cases h
      simp only [Group.Obeys, Join.Obeys]
      exact hcs
  | bare subqueries => cases h

end Host

/-! ## Conditions -/

section

variable {host : Host} {cs cs' : List Condition} {c : Condition} {boolean : String}
  {column operator value callback : Argument} {filter : Filter} {arguments : List Argument}

theorem ConditionsObey.concat (hcs : ConditionsObey r cs) (hc : c.Obeys r) :
    ConditionsObey r (cs ++ [c]) :=
  hcs.append ⟨hc, trivial⟩

theorem Compares.obeys (h : Compares host column operator value boolean c)
    (hr : r.AllowsTables) (hc : r.condition c) (hoperator : operator.Obeys r)
    (hvalue : value.Obeys r) : c.Obeys r := by
  cases h with
  | rows h hv hs =>
      simp only [Condition.Obeys]
      exact ⟨hc, Host.source_obeys hr (prepared_obeys hoperator hvalue h) hs⟩
  | null h negated => simpa only [Condition.Obeys] using hc
  | value h hv hnull => simpa only [Condition.Obeys] using hc

theorem Nests.obeys (h : Nests host callback boolean c) (hr : r.AllowsTables)
    (hc : r.condition c) (ha : callback.Obeys r) : c.Obeys r := by
  cases h with
  | group hfresh h hne =>
      simp only [Condition.Obeys]
      have hempty : ConditionsObey r [] := trivial
      exact ⟨hc, Host.filled_obeys ha (Host.group?_obeys hr hempty hfresh) h⟩

theorem Adds.obeys (h : Adds host filter arguments c) (hr : r.AllowsTables)
    (hadded : ∀ c, Adds host filter arguments c → r.condition c)
    (ha : ∀ a ∈ arguments, a.Obeys r) : c.Obeys r := by
  have hc := hadded c h
  -- Only inner queries and groups contain others, and these are made of the arguments.
  cases h with
  | compare hcolumn hgroup h =>
      simp only [List.forall_mem_cons] at ha
      exact h.obeys hr hc ha.2.1 ha.2.2.1
  | callback h | nested h =>
      rw [List.forall_mem_cons] at ha
      exact h.obeys hr hc ha.1
  | entry hcolumn he h =>
      rw [List.forall_mem_cons] at ha
      exact h.obeys hr hc (.value _) (ha.1.of_entries? hcolumn _ he)
  | entries hcolumn hinner hmembers hne =>
      rw [List.forall_mem_cons] at ha
      simp only [Condition.Obeys]
      refine ⟨hc, Host.group?_obeys hr (ConditionsObey.of_forall fun c hc => ?_) hmembers⟩
      obtain ⟨e, he, h⟩ := hinner c hc
      exact h.obeys hr (hadded c (.entry hcolumn he h)) (.value _)
        (ha.1.of_entries? hcolumn e he)
  | amongRows hs =>
      simp only [List.forall_mem_cons] at ha
      simp only [Condition.Obeys]
      exact ⟨hc, Host.source_obeys hr ha.2.1 hs⟩
  | existence hs =>
      rw [List.forall_mem_cons] at ha
      simp only [Condition.Obeys]
      exact ⟨hc, Host.source_obeys hr ha.1 hs⟩
  | sql | columns | among | isNull | between | datePart =>
      simpa only [Condition.Obeys] using hc

theorem Extends.obeys (h : Extends host filter arguments cs cs') (hr : r.AllowsTables)
    (hadded : ∀ c, Adds host filter arguments c → r.condition c) (hcs : ConditionsObey r cs)
    (ha : ∀ a ∈ arguments, a.Obeys r) : ConditionsObey r cs' := by
  obtain ⟨added, rfl, hall⟩ := h
  exact hcs.append (.of_forall fun c hc => (hall c hc).obeys hr hadded ha)

end

open Conditions

/-! ## Verbs -/

/-- A condition that a verb with the given arguments can add, to a query or to a join. -/
inductive Verb.CanAdd : Verb → List Argument → Condition → Prop where
  | filter {host : Host} {filter : Filter} {arguments : List Argument} {c : Condition}
      (h : Adds host filter arguments c) : CanAdd (.filter filter) arguments c
  | onGroup {host : Host} {first operator second boolean : Argument} {c : Condition}
      (h : Adds host .nested [first, boolean] c) : CanAdd .on [first, operator, second, boolean] c
  | onColumns {host : Host} {first operator second boolean : Argument} {c : Condition}
      (h : Adds host .columns [first, operator, second, boolean] c) :
      CanAdd .on [first, operator, second, boolean] c
  | joinValue {host : Host} {table first operator second kind byValue : Argument} {c : Condition}
      (hby : byValue.isTruthy = true) (hfirst : first.isCallback = false)
      (hnull : first ≠ .value .null)
      (h : Adds host .add [first, operator, second, .value (.text "and")] c) :
      CanAdd .join [table, first, operator, second, kind, byValue] c
  | joinOn {table first operator second kind byValue : Argument} {c : Condition}
      (h : CanAdd .on [first, operator, second, .value (.text "and")] c) :
      CanAdd .join [table, first, operator, second, kind, byValue] c
  | having {column operator value boolean v : Argument} {named : String}
      (h : prepared operator value = .ok (named, v)) :
      CanAdd .having [column, operator, value, boolean]
        (.compare boolean.text column.opaqueValue named v.opaqueValue)
  | havingSql {sql values boolean : Argument} (vs : List Value) :
      CanAdd .havingSql [sql, values, boolean] (.sql boolean.text sql.text vs)

/-- What the verb adds to a query or changes in its flat parts keeps to the rule. -/
structure Verb.Respects (r : Rule) (verb : Verb) (arguments : List Argument) : Prop where
  condition : ∀ c, verb.CanAdd arguments c → r.condition c
  outline : ∀ g find q, r.outline q.outline →
    r.outline (verb.onQuery g find q arguments).state.outline

theorem Conditions.addOn_obeys {host : Host} {cs : List Condition}
    {first operator second : Argument} (boolean : Argument) (hr : r.AllowsTables)
    (hadded : ∀ c, Verb.on.CanAdd [first, operator, second, boolean] c → r.condition c)
    (hcs : ConditionsObey r cs) (ha : ∀ a ∈ [first, operator, second, boolean], a.Obeys r) :
    ConditionsObey r
      (Outcome.ofResult cs (addOn host first operator second boolean.text cs)).state := by
  rw [addOn_eq]
  split
  · simp only [List.forall_mem_cons] at ha
    refine (Filter.nested.apply_extends host cs _).obeys hr (fun c hc => hadded c (.onGroup hc))
      hcs ?_
    simp only [List.forall_mem_cons]
    exact ⟨ha.1, ha.2.2.2⟩
  · exact (Filter.columns.apply_extends host cs _).obeys hr
      (fun c hc => hadded c (.onColumns hc)) hcs ha

theorem Query.changeConditions_obeys {q : Query}
    {change : Host → List Condition → Outcome (List Condition)} (hq : q.PartsObey r)
    (h : ∀ host cs, ConditionsObey r cs → ConditionsObey r (change host cs).state) :
    (q.changeConditions change).state.PartsObey r :=
  ⟨hq.1, h _ _ hq.2.1, hq.2.2⟩

theorem Join.changeConditions_obeys {j : Join} {subqueries : Bool}
    {change : Host → List Condition → Outcome (List Condition)} (hj : j.Obeys r)
    (h : ∀ host cs, ConditionsObey r cs → ConditionsObey r (change host cs).state) :
    (j.changeConditions subqueries change).state.Obeys r := by
  rw [Join.obeys_iff] at hj ⊢
  exact h _ _ hj

theorem Verb.onJoin_obeys {subqueries : Bool} {j : Join} {verb : Verb}
    {arguments : List Argument} (hr : r.AllowsTables)
    (hadded : ∀ c, verb.CanAdd arguments c → r.condition c) (hj : j.Obeys r)
    (ha : ∀ a ∈ arguments, a.Obeys r) : (verb.onJoin subqueries j arguments).state.Obeys r := by
  unfold Verb.onJoin
  split
  · refine Join.changeConditions_obeys hj fun host cs hcs => ?_
    exact (Filter.apply_extends host cs _ _).obeys hr (fun c hc => hadded c (.filter hc)) hcs ha
  · exact Join.changeConditions_obeys hj fun _ _ hcs => addOn_obeys _ hr hadded hcs ha
  all_goals exact hj

namespace Query

variable {q q' : Query} {table first operator second kind byValue query boolean : Argument}
  {all : Bool}

theorem joinConditions_obeys {j : Join} (hr : r.AllowsTables)
    (hadded : ∀ c, Verb.join.CanAdd [table, first, operator, second, kind, byValue] c →
      r.condition c) (hj : j.Obeys r) (hfirst : first.Obeys r) (hoperator : operator.Obeys r)
    (hsecond : second.Obeys r) :
    (joinConditions first operator second byValue.isTruthy j).state.Obeys r := by
  have ha : ∀ a ∈ [first, operator, second, .value (.text "and")], a.Obeys r := by
    simp only [List.forall_mem_cons]
    exact ⟨hfirst, hoperator, hsecond, .value _, List.forall_mem_nil _⟩
  unfold joinConditions
  split
  · cases hfirst with
    | callback hquery hjoin => exact hjoin true j hj
  · exact hj
  · rename_i hcallback hnull
    have hno : first.isCallback = false := by
      cases first with
      | value v | entries pairs | query source => rfl
      | callback onQuery onJoin => exact absurd rfl (hcallback onQuery onJoin)
    refine Join.changeConditions_obeys hj fun host cs hcs => ?_
    split
    · rename_i hby
      exact (add_extends host cs first operator second (.value (.text "and"))).obeys hr
        (fun c hc => hadded c (.joinValue hby hno hnull hc)) hcs ha
    · exact addOn_obeys (.value (.text "and")) hr (fun c hc => hadded c (.joinOn hc)) hcs ha

theorem join_obeys (hr : r.AllowsTables)
    (hadded : ∀ c, Verb.join.CanAdd [table, first, operator, second, kind, byValue] c →
      r.condition c) (hq : q.PartsObey r) (hfirst : first.Obeys r) (hoperator : operator.Obeys r)
    (hsecond : second.Obeys r)
    (h : q.join table first operator second kind byValue.isTruthy = .ok q') :
    q'.PartsObey r := by
  obtain ⟨j, hj, h⟩ := ok_of_bind h
  cases h
  have hjoin : j.Obeys r := by
    rw [← Outcome.state_of_result hj]
    refine joinConditions_obeys hr hadded ?_ hfirst hoperator hsecond
    rw [Join.obeys_iff]
    trivial
  exact ⟨hq.1.concat hjoin, hq.2⟩

theorem having_obeys
    (hadded : ∀ c, Verb.having.CanAdd [first, operator, second, boolean] c → r.condition c)
    (hq : q.PartsObey r) (h : q.having first operator second boolean.text = .ok q') :
    q'.PartsObey r := by
  obtain ⟨⟨named, v⟩, hprepared, h⟩ := ok_of_bind h
  cases h
  have hc := hadded _ (.having hprepared)
  exact ⟨hq.1, hq.2.1, hq.2.2.1.concat (by simpa only [Condition.Obeys] using hc), hq.2.2.2⟩

theorem havingSql_obeys
    (hadded : ∀ c, Verb.havingSql.CanAdd [first, second, boolean] c → r.condition c)
    (hq : q.PartsObey r) (h : q.havingSql first second boolean.text = .ok q') :
    q'.PartsObey r := by
  obtain ⟨vs, -, h⟩ := ok_of_bind h
  cases h
  have hc := hadded _ (.havingSql vs)
  exact ⟨hq.1, hq.2.1, hq.2.2.1.concat (by simpa only [Condition.Obeys] using hc), hq.2.2.2⟩

theorem union_obeys (hr : r.AllowsTables) (hq : q.PartsObey r) (hquery : query.Obeys r)
    (h : q.union query all = .ok q') : q'.PartsObey r := by
  obtain ⟨s, hs, h⟩ := ok_of_bind h
  cases h
  have hsource := Host.source_obeys hr hquery hs
  exact ⟨hq.1, hq.2.1, hq.2.2.1, hq.2.2.2.concat (by simpa only [Union.Obeys] using hsource)⟩

theorem limit_obeys (hq : q.PartsObey r) (h : q.limit first = .ok q') : q'.PartsObey r := by
  obtain ⟨_, -, h⟩ := ok_of_bind h
  cases h
  exact hq.outline rfl

theorem offset_obeys (hq : q.PartsObey r) (h : q.offset first = .ok q') : q'.PartsObey r := by
  obtain ⟨_, -, h⟩ := ok_of_bind h
  cases h
  exact hq.outline rfl

end Query

theorem Part.assign_obeys {v : Value} {q q' : Query} (part : Part) (hq : q.PartsObey r)
    (h : part.assign v q = .ok q') : q'.PartsObey r := by
  cases part with
  | table | distinct =>
      cases h
      exact hq.outline rfl
  | columns | groups =>
      simp only [assign] at h
      split at h
      · obtain ⟨_, -, h⟩ := ok_of_bind h
        cases h
        exact hq.outline rfl
      · obtain ⟨_, -, h⟩ := ok_of_bind h
        cases h
        exact hq.outline rfl
  | limit | offset | unionLimit | unionOffset =>
      obtain ⟨_, -, h⟩ := ok_of_bind h
      cases h
      exact hq.outline rfl
  | aggregate =>
      simp only [assign] at h
      split at h
      · cases h
        exact hq.outline rfl
      · cases h
  | orders | unionOrders =>
      simp only [assign] at h
      split at h
      · cases h
      · cases h
        exact hq.outline rfl
  | joins =>
      simp only [assign] at h
      split at h
      · cases h
      · cases h
        exact ⟨trivial, hq.2⟩
  | havings =>
      simp only [assign] at h
      split at h
      · cases h
      · cases h
        exact ⟨hq.1, hq.2.1, trivial, hq.2.2.2⟩
  | unions =>
      simp only [assign] at h
      split at h
      · cases h
      · cases h
        exact ⟨hq.1, hq.2.1, hq.2.2.1, trivial⟩

theorem Verb.onQuery_partsObey {g : Grammar} {find : Nat → Source} {q : Query} {verb : Verb}
    {arguments : List Argument} (hr : r.AllowsTables)
    (hadded : ∀ c, verb.CanAdd arguments c → r.condition c) (hq : q.PartsObey r)
    (ha : ∀ a ∈ arguments, a.Obeys r) :
    (verb.onQuery g find q arguments).state.PartsObey r := by
  unfold Verb.onQuery
  split
  · refine Query.changeConditions_obeys hq fun host cs hcs => ?_
    exact (Filter.apply_extends host cs _ _).obeys hr (fun c hc => hadded c (.filter hc)) hcs ha
  · exact hq.outline rfl
  · exact hq.outline rfl
  · exact hq.outline rfl
  · exact hq.outline rfl
  · exact hq.outline rfl
  · simp only [List.forall_mem_cons] at ha
    exact Outcome.state_ofResult hq fun _ =>
      Query.join_obeys hr hadded hq ha.2.1 ha.2.2.1 ha.2.2.2.1
  · exact hq.outline rfl
  · exact Outcome.state_ofResult hq fun _ => Query.having_obeys hadded hq
  · exact Outcome.state_ofResult hq fun _ => Query.havingSql_obeys hadded hq
  · apply Outcome.state_ofResult hq
    intro q' h
    obtain ⟨_, -, h⟩ := ok_of_bind h
    cases h
    exact hq.outline rfl
  · exact hq.outline rfl
  · exact Outcome.state_ofResult hq fun _ => Query.limit_obeys hq
  · exact Outcome.state_ofResult hq fun _ => Query.offset_obeys hq
  · apply Outcome.state_andThen
    · apply Outcome.state_ofResult hq
      intro q' h
      obtain ⟨_, -, h⟩ := ok_of_bind h
      exact Query.offset_obeys hq h
    · intro q' hq'
      exact Outcome.state_ofResult hq' fun _ => Query.limit_obeys hq'
  · simp only [List.forall_mem_cons] at ha
    exact Outcome.state_ofResult hq fun _ => Query.union_obeys hr hq ha.1
  · apply Outcome.state_ofResult hq
    intro q' h
    obtain ⟨_, -, h⟩ := ok_of_bind h
    cases h
    exact hq.outline rfl
  · exact Outcome.state_ofResult hq fun _ => Part.assign_obeys _ hq
  · apply Outcome.state_ofResult hq
    intro q' h
    obtain ⟨_, -, h⟩ := ok_of_bind h
    cases h
    exact hq
  all_goals exact hq

theorem Verb.onQuery_obeys {g : Grammar} {find : Nat → Source} {q : Query} {verb : Verb}
    {arguments : List Argument} (hr : r.AllowsTables) (hverb : verb.Respects r arguments)
    (hq : q.Obeys r) (ha : ∀ a ∈ arguments, a.Obeys r) :
    (verb.onQuery g find q arguments).state.Obeys r := by
  rw [Query.obeys_iff] at hq ⊢
  exact ⟨hverb.outline g find q hq.1, verb.onQuery_partsObey hr hverb.condition hq.2 ha⟩

/-! ## Operands and clauses -/

mutual

/-- All clauses in the operand have a property, at any depth, and all shared queries have
another. -/
def Operand.Everywhere (ok : Clause → Prop) (shared : Nat → Prop) : Operand → Prop
  | .entries pairs => EverywhereInEntries ok shared pairs
  | .callback clauses | .query clauses => EverywhereInClauses ok shared clauses
  | .shared id => shared id
  | .value _ | .broken _ => True

def EverywhereInEntries (ok : Clause → Prop) (shared : Nat → Prop) :
    List (Value × Operand) → Prop
  | [] => True
  | (_, operand) :: rest => operand.Everywhere ok shared ∧ EverywhereInEntries ok shared rest

def EverywhereInOperands (ok : Clause → Prop) (shared : Nat → Prop) : List Operand → Prop
  | [] => True
  | operand :: rest => operand.Everywhere ok shared ∧ EverywhereInOperands ok shared rest

/-- The clause and all those in its operands have a property, and all shared queries have
another. -/
def Clause.Everywhere (ok : Clause → Prop) (shared : Nat → Prop) : Clause → Prop
  | ⟨verb, operands, reach⟩ =>
    ok ⟨verb, operands, reach⟩ ∧ EverywhereInOperands ok shared operands

def EverywhereInClauses (ok : Clause → Prop) (shared : Nat → Prop) : List Clause → Prop
  | [] => True
  | clause :: rest => clause.Everywhere ok shared ∧ EverywhereInClauses ok shared rest

end

/-- Wherever the clause is run, what it adds keeps to the rule. -/
def Clause.Respects (r : Rule) (clause : Clause) : Prop :=
  ∀ g find arguments, argumentsWith g find clause.operands = .ok arguments →
    clause.verb.Respects r arguments

section

variable {g : Grammar} {find : Nat → Source} {ok : Clause → Prop}

mutual

theorem Operand.argument_obeys (hr : r.AllowsTables) (hok : ∀ c, ok c → c.Respects r) :
    (o : Operand) → o.Everywhere ok r.shared → ∀ a, o.argumentWith g find = .ok a → a.Obeys r
  | .value v, _, a, h => by
      cases h
      exact .value v
  | .entries pairs, ho, a, h => by
      simp only [Operand.Everywhere] at ho
      rw [Operand.argumentWith] at h
      obtain ⟨arguments, harguments, h⟩ := ok_of_bind h
      cases h
      exact .entries (argumentsOfEntries_obey hr hok pairs ho _ harguments)
  | .callback clauses, ho, a, h => by
      simp only [Operand.Everywhere] at ho
      rw [Operand.argumentWith] at h
      cases h
      exact .callback (fun q hq => buildQuery_obeys hr hok clauses ho q hq)
        fun subqueries j hj => buildJoin_obeys hr hok clauses ho subqueries j hj
  | .query clauses, ho, a, h => by
      simp only [Operand.Everywhere] at ho
      rw [Operand.argumentWith] at h
      obtain ⟨q, hq, h⟩ := ok_of_bind h
      cases h
      refine .query ?_
      rw [Source.Obeys, ← Outcome.state_of_result hq]
      exact buildQuery_obeys hr hok clauses ho _ (Query.obeys_on hr .null)
  | .shared id, ho, a, h => by
      simp only [Operand.Everywhere] at ho
      rw [Operand.argumentWith] at h
      cases h
      exact .query (by simpa only [Source.Obeys] using ho)
  | .broken fault, _, a, h => by
      rw [Operand.argumentWith] at h
      cases h

theorem argumentsOfEntries_obey (hr : r.AllowsTables) (hok : ∀ c, ok c → c.Respects r) :
    (pairs : List (Value × Operand)) → EverywhereInEntries ok r.shared pairs →
      ∀ arguments, argumentsOfEntries g find pairs = .ok arguments →
        ∀ e ∈ arguments, e.2.Obeys r
  | [], _, arguments, h => by
      rw [argumentsOfEntries] at h
      cases h
      exact List.forall_mem_nil _
  | (key, operand) :: rest, hpairs, arguments, h => by
      simp only [EverywhereInEntries] at hpairs
      rw [argumentsOfEntries] at h
      obtain ⟨a, ha, h⟩ := ok_of_bind h
      obtain ⟨more, hmore, h⟩ := ok_of_bind h
      cases h
      rw [List.forall_mem_cons]
      exact ⟨Operand.argument_obeys hr hok operand hpairs.1 a ha,
        argumentsOfEntries_obey hr hok rest hpairs.2 more hmore⟩

theorem argumentsWith_obey (hr : r.AllowsTables) (hok : ∀ c, ok c → c.Respects r) :
    (operands : List Operand) → EverywhereInOperands ok r.shared operands →
      ∀ arguments, argumentsWith g find operands = .ok arguments → ∀ a ∈ arguments, a.Obeys r
  | [], _, arguments, h => by
      rw [argumentsWith] at h
      cases h
      exact List.forall_mem_nil _
  | operand :: rest, hoperands, arguments, h => by
      simp only [EverywhereInOperands] at hoperands
      rw [argumentsWith] at h
      obtain ⟨a, ha, h⟩ := ok_of_bind h
      obtain ⟨more, hmore, h⟩ := ok_of_bind h
      cases h
      rw [List.forall_mem_cons]
      exact ⟨Operand.argument_obeys hr hok operand hoperands.1 a ha,
        argumentsWith_obey hr hok rest hoperands.2 more hmore⟩

/-- Whether or not a clause goes through, the query goes on obeying the rule. -/
theorem Clause.onQuery_obeys (hr : r.AllowsTables) (hok : ∀ c, ok c → c.Respects r) :
    (clause : Clause) → clause.Everywhere ok r.shared → ∀ q : Query, q.Obeys r →
      (clause.onQuery g find q).state.Obeys r
  | ⟨verb, operands, reach⟩, hclause, q, hq => by
      simp only [Clause.Everywhere] at hclause
      rw [Clause.onQuery]
      split
      · exact hq
      · split
        · exact hq
        · rename_i arguments harguments
          exact verb.onQuery_obeys hr (hok _ hclause.1 g find arguments harguments) hq
            (argumentsWith_obey hr hok operands hclause.2 arguments harguments)

theorem Clause.onJoin_obeys (hr : r.AllowsTables) (hok : ∀ c, ok c → c.Respects r) :
    (clause : Clause) → clause.Everywhere ok r.shared → ∀ subqueries, ∀ j : Join, j.Obeys r →
      (clause.onJoin g find subqueries j).state.Obeys r
  | ⟨verb, operands, reach⟩, hclause, subqueries, j, hj => by
      simp only [Clause.Everywhere] at hclause
      rw [Clause.onJoin]
      split
      · exact hj
      · split
        · exact hj
        · rename_i arguments harguments
          exact verb.onJoin_obeys hr (hok _ hclause.1 g find arguments harguments).condition hj
            (argumentsWith_obey hr hok operands hclause.2 arguments harguments)

theorem buildQuery_obeys (hr : r.AllowsTables) (hok : ∀ c, ok c → c.Respects r) :
    (clauses : List Clause) → EverywhereInClauses ok r.shared clauses →
      ∀ q : Query, q.Obeys r → (buildQuery g find clauses q).state.Obeys r
  | [], _, q, hq => by
      rw [buildQuery]
      exact hq
  | clause :: rest, hclauses, q, hq => by
      simp only [EverywhereInClauses] at hclauses
      rw [buildQuery]
      apply Outcome.state_andThen
      · exact Clause.onQuery_obeys hr hok clause hclauses.1 q hq
      · exact fun q' hq' => buildQuery_obeys hr hok rest hclauses.2 q' hq'

theorem buildJoin_obeys (hr : r.AllowsTables) (hok : ∀ c, ok c → c.Respects r) :
    (clauses : List Clause) → EverywhereInClauses ok r.shared clauses → ∀ subqueries,
      ∀ j : Join, j.Obeys r → (buildJoin g find clauses subqueries j).state.Obeys r
  | [], _, subqueries, j, hj => by
      rw [buildJoin]
      exact hj
  | clause :: rest, hclauses, subqueries, j, hj => by
      simp only [EverywhereInClauses] at hclauses
      rw [buildJoin]
      apply Outcome.state_andThen
      · exact Clause.onJoin_obeys hr hok clause hclauses.1 subqueries j hj
      · exact fun j' hj' => buildJoin_obeys hr hok rest hclauses.2 subqueries j' hj'

end

end

end QueryClient
