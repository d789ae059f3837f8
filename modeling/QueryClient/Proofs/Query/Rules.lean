import QueryClient.Query.Resolve

/-!
# Rules for all parts of a query

A rule asks something of the conditions of a query, of its flat parts and of the shared queries that
it refers to. A query obeys it when they all do, at any depth.
-/

namespace QueryClient

/-- What is asked of the parts of a query. -/
structure Rule where
  condition : Condition → Prop
  outline : Outline → Prop
  shared : Nat → Prop

mutual

/-- The condition and all that it contains obey the rule; the definitions below say the same of the
other parts of a query. -/
def Condition.Obeys (r : Rule) : Condition → Prop
  | .group boolean members => r.condition (.group boolean members) ∧ members.Obeys r
  | .amongRows boolean column source negated =>
    r.condition (.amongRows boolean column source negated) ∧ source.Obeys r
  | .compareRow boolean column operator source =>
    r.condition (.compareRow boolean column operator source) ∧ source.Obeys r
  | .existence boolean source negated =>
    r.condition (.existence boolean source negated) ∧ source.Obeys r
  | condition => r.condition condition

def Group.Obeys (r : Rule) : Group → Prop
  | .query q => q.Obeys r
  | .join j => j.Obeys r

def Source.Obeys (r : Rule) : Source → Prop
  | .own q => q.Obeys r
  | .shared id => r.shared id
  | .other _ => True

def Join.Obeys (r : Rule) : Join → Prop
  | ⟨_, _, conditions⟩ => ConditionsObey r conditions

def Union.Obeys (r : Rule) : Union → Prop
  | ⟨source, _⟩ => source.Obeys r

def Query.Obeys (r : Rule) : Query → Prop
  | ⟨outline, joins, conditions, havings, unions⟩ =>
    r.outline outline ∧ JoinsObey r joins ∧ ConditionsObey r conditions ∧ ConditionsObey r havings
      ∧ UnionsObey r unions

def ConditionsObey (r : Rule) : List Condition → Prop
  | [] => True
  | condition :: rest => condition.Obeys r ∧ ConditionsObey r rest

def JoinsObey (r : Rule) : List Join → Prop
  | [] => True
  | join :: rest => join.Obeys r ∧ JoinsObey r rest

def UnionsObey (r : Rule) : List Union → Prop
  | [] => True
  | union :: rest => union.Obeys r ∧ UnionsObey r rest

end

variable {r : Rule}

/-- The conditions, joins and unions of the query obey the rule. -/
def Query.PartsObey (r : Rule) (q : Query) : Prop :=
  JoinsObey r q.joins ∧ ConditionsObey r q.conditions ∧ ConditionsObey r q.havings
    ∧ UnionsObey r q.unions

theorem Query.obeys_iff {q : Query} : q.Obeys r ↔ r.outline q.outline ∧ q.PartsObey r := by
  cases q
  simp only [Query.Obeys, Query.PartsObey]

theorem Join.obeys_iff {j : Join} : j.Obeys r ↔ ConditionsObey r j.conditions := by
  cases j
  simp only [Join.Obeys]

/-- The rule is kept by queries of which only the table is known. -/
def Rule.AllowsTables (r : Rule) : Prop :=
  ∀ table, r.outline { table }

theorem Query.obeys_on (hr : r.AllowsTables) (table : Value) : (Query.on table).Obeys r :=
  Query.obeys_iff.mpr ⟨hr table, trivial, trivial, trivial, trivial⟩

theorem ConditionsObey.append {cs more : List Condition} (h : ConditionsObey r cs)
    (hmore : ConditionsObey r more) : ConditionsObey r (cs ++ more) := by
  induction cs with
  | nil => exact hmore
  | cons c cs ih => exact ⟨h.1, ih h.2⟩

theorem ConditionsObey.of_forall {cs : List Condition} (h : ∀ c ∈ cs, c.Obeys r) :
    ConditionsObey r cs := by
  induction cs with
  | nil => trivial
  | cons c cs ih =>
      rw [List.forall_mem_cons] at h
      exact ⟨h.1, ih h.2⟩

theorem JoinsObey.concat {js : List Join} {j : Join} (h : JoinsObey r js) (hj : j.Obeys r) :
    JoinsObey r (js ++ [j]) := by
  induction js with
  | nil => exact ⟨hj, trivial⟩
  | cons j' js ih => exact ⟨h.1, ih h.2⟩

theorem UnionsObey.concat {us : List Union} {u : Union} (h : UnionsObey r us) (hu : u.Obeys r) :
    UnionsObey r (us ++ [u]) := by
  induction us with
  | nil => exact ⟨hu, trivial⟩
  | cons u' us ih => exact ⟨h.1, ih h.2⟩

/-! ## Resolved queries -/

/-- A condition keeps to the rule when others are put in the places of shared queries. -/
def Rule.Resolves (r : Rule) (find : Nat → Source) : Prop :=
  (∀ c, r.condition c → r.condition (c.resolve find)) ∧ ∀ id, r.shared id → (find id).Obeys r

variable {find : Nat → Source}

mutual

/-- A query obeys the rule when all that is put in the places of shared ones does. -/
theorem Condition.Obeys.resolve (h : r.Resolves find) :
    (c : Condition) → c.Obeys r → (c.resolve find).Obeys r
  | .group boolean members, hc => by
      simp only [Condition.Obeys] at hc
      have hlocal := h.1 _ hc.1
      simp only [Condition.resolve] at hlocal ⊢
      simp only [Condition.Obeys]
      exact ⟨hlocal, Group.Obeys.resolve h members hc.2⟩
  | .amongRows _ _ source _, hc | .compareRow _ _ _ source, hc | .existence _ source _, hc => by
      simp only [Condition.Obeys] at hc
      have hlocal := h.1 _ hc.1
      simp only [Condition.resolve] at hlocal ⊢
      simp only [Condition.Obeys]
      exact ⟨hlocal, Source.Obeys.resolve h source hc.2⟩
  | .sql .., hc | .compare .., hc | .among .., hc | .isNull .., hc | .between .., hc
  | .datePart .., hc | .compareColumns .., hc => by simpa only [Condition.resolve] using hc

theorem Group.Obeys.resolve (h : r.Resolves find) :
    (m : Group) → m.Obeys r → (m.resolve find).Obeys r
  | .query q, hm => by
      simp only [Group.Obeys] at hm
      simp only [Group.resolve, Group.Obeys]
      exact Query.Obeys.resolve h q hm
  | .join j, hm => by
      simp only [Group.Obeys] at hm
      simp only [Group.resolve, Group.Obeys]
      exact Join.Obeys.resolve h j hm

theorem Source.Obeys.resolve (h : r.Resolves find) :
    (s : Source) → s.Obeys r → (s.resolve find).Obeys r
  | .own q, hs => by
      simp only [Source.Obeys] at hs
      simp only [Source.resolve, Source.Obeys]
      exact Query.Obeys.resolve h q hs
  | .shared id, hs => by
      simp only [Source.Obeys] at hs
      simp only [Source.resolve]
      exact h.2 id hs
  | .other _, _ => by simp only [Source.resolve, Source.Obeys]

theorem Join.Obeys.resolve (h : r.Resolves find) :
    (j : Join) → j.Obeys r → (j.resolve find).Obeys r
  | ⟨_, _, conditions⟩, hj => by
      simp only [Join.Obeys] at hj
      simp only [Join.resolve, Join.Obeys]
      exact ConditionsObey.resolve h conditions hj

theorem Union.Obeys.resolve (h : r.Resolves find) :
    (u : Union) → u.Obeys r → (u.resolve find).Obeys r
  | ⟨source, _⟩, hu => by
      simp only [Union.Obeys] at hu
      simp only [Union.resolve, Union.Obeys]
      exact Source.Obeys.resolve h source hu

theorem Query.Obeys.resolve (h : r.Resolves find) :
    (q : Query) → q.Obeys r → (q.resolve find).Obeys r
  | ⟨_, joins, conditions, havings, unions⟩, hq => by
      simp only [Query.Obeys] at hq
      simp only [Query.resolve, Query.Obeys]
      exact ⟨hq.1, JoinsObey.resolve h joins hq.2.1, ConditionsObey.resolve h conditions hq.2.2.1,
        ConditionsObey.resolve h havings hq.2.2.2.1, UnionsObey.resolve h unions hq.2.2.2.2⟩

theorem ConditionsObey.resolve (h : r.Resolves find) :
    (cs : List Condition) → ConditionsObey r cs → ConditionsObey r (resolveConditions find cs)
  | [], _ => trivial
  | c :: cs, hcs => ⟨Condition.Obeys.resolve h c hcs.1, ConditionsObey.resolve h cs hcs.2⟩

theorem JoinsObey.resolve (h : r.Resolves find) :
    (js : List Join) → JoinsObey r js → JoinsObey r (resolveJoins find js)
  | [], _ => trivial
  | j :: js, hjs => ⟨Join.Obeys.resolve h j hjs.1, JoinsObey.resolve h js hjs.2⟩

theorem UnionsObey.resolve (h : r.Resolves find) :
    (us : List Union) → UnionsObey r us → UnionsObey r (resolveUnions find us)
  | [], _ => trivial
  | u :: us, hus => ⟨Union.Obeys.resolve h u hus.1, UnionsObey.resolve h us hus.2⟩

end

end QueryClient
