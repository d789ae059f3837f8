import QueryClient.Proofs.Query.Readings

/-!
# What is visible of conditions

A group keeps the whole query or join that a callback has filled in. What the group belongs to shows
neither in the text of the group nor in its values, and neither does anything else that a query has
beside its conditions and what it binds.
-/

namespace QueryClient

mutual

/-- The condition as far as it can be read. -/
def Condition.visible : Condition → Condition
  | .group boolean members => .group boolean members.visible
  | condition => condition

/-- The group as far as it can be read: a join shows as much as a query on nothing. -/
def Group.visible : Group → Group
  | .query ⟨_, joins, conditions, havings, unions⟩ =>
    .query ⟨{}, joins, visibleConditions conditions, havings, unions⟩
  | .join ⟨_, _, conditions⟩ => .query ⟨{}, [], visibleConditions conditions, [], []⟩

def visibleConditions : List Condition → List Condition
  | [] => []
  | condition :: rest => condition.visible :: visibleConditions rest

end

/-- The query with its own parts and its conditions as far as they can be read. -/
def Query.visible (q : Query) : Query :=
  { q with conditions := visibleConditions q.conditions }

theorem Condition.kind_visible (c : Condition) : c.visible.kind = c.kind := by
  cases c <;> simp only [visible, kind]

theorem Condition.boolean_visible (c : Condition) : c.visible.boolean = c.boolean := by
  cases c <;> simp only [visible, boolean]

theorem visibleConditions_append (cs cs' : List Condition) :
    visibleConditions (cs ++ cs') = visibleConditions cs ++ visibleConditions cs' := by
  induction cs with
  | nil => rfl
  | cons c cs ih => simp only [List.cons_append, visibleConditions, ih]

theorem visibleConditions_eq_nil {cs : List Condition} : visibleConditions cs = [] ↔ cs = [] := by
  cases cs <;> simp [visibleConditions]

/-! ## Resolving -/

mutual

theorem Condition.resolve_visible (find : Nat → Source) :
    (c : Condition) → c.visible.resolve find = (c.resolve find).visible
  | .group _ members => by
      simp only [Condition.visible, Condition.resolve, Group.resolve_visible find members]
  | .amongRows .. | .compareRow .. | .existence .. | .sql .. | .compare .. | .among ..
  | .isNull .. | .between .. | .datePart .. | .compareColumns .. => by
      simp only [Condition.visible, Condition.resolve]

theorem Group.resolve_visible (find : Nat → Source) :
    (m : Group) → m.visible.resolve find = (m.resolve find).visible
  | .query ⟨_, _, conditions, _, _⟩ => by
      simp only [Group.visible, Group.resolve, Query.resolve,
        resolveConditions_visible find conditions]
  | .join ⟨_, _, conditions⟩ => by
      simp only [Group.visible, Group.resolve, Query.resolve, Join.resolve, resolveJoins,
        resolveConditions, resolveUnions, resolveConditions_visible find conditions]

theorem resolveConditions_visible (find : Nat → Source) : (cs : List Condition) →
    resolveConditions find (visibleConditions cs) = visibleConditions (resolveConditions find cs)
  | [] => rfl
  | c :: cs => by
      simp only [visibleConditions, resolveConditions, Condition.resolve_visible find c,
        resolveConditions_visible find cs]

end

theorem Query.resolve_visible (find : Nat → Source) (q : Query) :
    q.visible.resolve find = (q.resolve find).visible := by
  cases q with
  | mk outline joins conditions havings unions =>
      simp only [visible, resolve, resolveConditions_visible]

/-! ## Texts -/

namespace Grammar

variable (g : Grammar)

mutual

theorem condition_visible : (c : Condition) → g.condition c.visible = g.condition c
  | .group _ members => by simp only [Condition.visible, condition_group, group_visible members]
  | .amongRows .. | .compareRow .. | .existence .. | .sql .. | .compare .. | .among ..
  | .isNull .. | .between .. | .datePart .. | .compareColumns .. => by
      simp only [Condition.visible]

theorem group_visible : (m : Group) → g.group m.visible = g.group m
  | .query ⟨_, _, conditions, _, _⟩ => by
      simp only [Group.visible, group, conditions_visible conditions]
  | .join ⟨_, _, conditions⟩ => by
      simp only [Group.visible, group, conditions_visible conditions]

theorem conditions_visible : (cs : List Condition) →
    g.conditions (visibleConditions cs) = g.conditions cs
  | [] => rfl
  | c :: cs => by
      simp only [visibleConditions, conditions, checkKind, Condition.kind_visible,
        Condition.boolean_visible, condition_visible c, conditions_visible cs]

end

theorem query_visible (q : Query) : g.query q.visible = g.query q := by
  cases q with
  | mk outline joins conditions havings unions =>
      simp only [Query.visible, query, conditions_visible]

end Grammar

/-! ## Values -/

/-- A query that has only conditions binds what they bind. -/
theorem Query.bindings_conditions (outline : Outline) (cs : List Condition) :
    Query.bindings ⟨outline, [], cs, [], []⟩ = bindingsOfConditions cs := by
  have hnone : bindingsOfConditions [] = .ok [] := rfl
  simp only [bindings, bindingsOfJoins, bindingsOfUnions, hnone, ok_bind]
  cases bindingsOfConditions cs with
  | error fault => rfl
  | ok vs =>
      have hvs : [] ++ vs ++ [] ++ [] = vs := by simp
      exact congrArg Except.ok hvs

mutual

theorem Condition.bindings_visible : (c : Condition) → c.visible.bindings = c.bindings
  | .group _ members => by
      simp only [Condition.visible, Condition.bindings, Group.bindings_visible members]
  | .amongRows .. | .compareRow .. | .existence .. | .sql .. | .compare .. | .among ..
  | .isNull .. | .between .. | .datePart .. | .compareColumns .. => by
      simp only [Condition.visible]

theorem Group.bindings_visible : (m : Group) → m.visible.bindings = m.bindings
  | .query ⟨_, _, conditions, _, _⟩ => by
      simp only [Group.visible, Group.bindings, Query.bindings,
        bindingsOfConditions_visible conditions]
  | .join ⟨_, _, conditions⟩ => by
      simp only [Group.visible, Group.bindings, Query.bindings_conditions, Join.bindings,
        bindingsOfConditions_visible conditions]

theorem bindingsOfConditions_visible : (cs : List Condition) →
    bindingsOfConditions (visibleConditions cs) = bindingsOfConditions cs
  | [] => rfl
  | c :: cs => by
      simp only [visibleConditions, bindingsOfConditions, Condition.bindings_visible c,
        bindingsOfConditions_visible cs]

end

theorem Query.bindings_visible (q : Query) : q.visible.bindings = q.bindings := by
  cases q with
  | mk outline joins conditions havings unions =>
      simp only [visible, bindings, bindingsOfConditions_visible]

end QueryClient
