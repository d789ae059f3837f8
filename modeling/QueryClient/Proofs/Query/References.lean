import QueryClient.Query.Resolve

/-!
# References to shared queries

Which shared queries a query refers to, at any depth, and what becomes of the references when queries
are put in their places.
-/

namespace QueryClient

/-! ## References -/

mutual

/-- All shared queries in the condition have a property; the definitions below say the same of the
other parts of a query. -/
def Condition.Within (p : Nat → Prop) : Condition → Prop
  | .group _ members => members.Within p
  | .amongRows _ _ source _ | .compareRow _ _ _ source | .existence _ source _ => source.Within p
  | .sql .. | .compare .. | .among .. | .isNull .. | .between .. | .datePart ..
  | .compareColumns .. => True

def Group.Within (p : Nat → Prop) : Group → Prop
  | .query q => q.Within p
  | .join j => j.Within p

def Source.Within (p : Nat → Prop) : Source → Prop
  | .own q => q.Within p
  | .shared id => p id
  | .other _ => True

def Join.Within (p : Nat → Prop) : Join → Prop
  | ⟨_, _, conditions⟩ => WithinConditions p conditions

def Union.Within (p : Nat → Prop) : Union → Prop
  | ⟨source, _⟩ => source.Within p

def Query.Within (p : Nat → Prop) : Query → Prop
  | ⟨_, joins, conditions, havings, unions⟩ =>
    WithinJoins p joins ∧ WithinConditions p conditions ∧ WithinConditions p havings
      ∧ WithinUnions p unions

def WithinConditions (p : Nat → Prop) : List Condition → Prop
  | [] => True
  | condition :: rest => condition.Within p ∧ WithinConditions p rest

def WithinJoins (p : Nat → Prop) : List Join → Prop
  | [] => True
  | join :: rest => join.Within p ∧ WithinJoins p rest

def WithinUnions (p : Nat → Prop) : List Union → Prop
  | [] => True
  | union :: rest => union.Within p ∧ WithinUnions p rest

end

variable {p p' : Nat → Prop}

theorem Query.within_empty : ({} : Query).Within p := by
  simp only [Query.Within, WithinJoins, WithinConditions, WithinUnions, and_self]

/-! ## References of a wider range -/

mutual

theorem Condition.Within.mono (h : ∀ id, p id → p' id) :
    (c : Condition) → c.Within p → c.Within p'
  | .group _ members, hc => by
      simp only [Condition.Within] at hc ⊢
      exact Group.Within.mono h members hc
  | .amongRows _ _ source _, hc | .compareRow _ _ _ source, hc | .existence _ source _, hc => by
      simp only [Condition.Within] at hc ⊢
      exact Source.Within.mono h source hc
  | .sql .., _ | .compare .., _ | .among .., _ | .isNull .., _ | .between .., _ | .datePart .., _
  | .compareColumns .., _ => by simp only [Condition.Within]

theorem Group.Within.mono (h : ∀ id, p id → p' id) : (m : Group) → m.Within p → m.Within p'
  | .query q, hm => by
      simp only [Group.Within] at hm ⊢
      exact Query.Within.mono h q hm
  | .join j, hm => by
      simp only [Group.Within] at hm ⊢
      exact Join.Within.mono h j hm

theorem Source.Within.mono (h : ∀ id, p id → p' id) : (s : Source) → s.Within p → s.Within p'
  | .own q, hs => by
      simp only [Source.Within] at hs ⊢
      exact Query.Within.mono h q hs
  | .shared id, hs => by
      simp only [Source.Within] at hs ⊢
      exact h id hs
  | .other _, _ => by simp only [Source.Within]

theorem Join.Within.mono (h : ∀ id, p id → p' id) : (j : Join) → j.Within p → j.Within p'
  | ⟨_, _, conditions⟩, hj => by
      simp only [Join.Within] at hj ⊢
      exact WithinConditions.mono h conditions hj

theorem Union.Within.mono (h : ∀ id, p id → p' id) : (u : Union) → u.Within p → u.Within p'
  | ⟨source, _⟩, hu => by
      simp only [Union.Within] at hu ⊢
      exact Source.Within.mono h source hu

theorem Query.Within.mono (h : ∀ id, p id → p' id) : (q : Query) → q.Within p → q.Within p'
  | ⟨_, joins, conditions, havings, unions⟩, hq => by
      simp only [Query.Within] at hq ⊢
      exact ⟨WithinJoins.mono h joins hq.1, WithinConditions.mono h conditions hq.2.1,
        WithinConditions.mono h havings hq.2.2.1, WithinUnions.mono h unions hq.2.2.2⟩

theorem WithinConditions.mono (h : ∀ id, p id → p' id) :
    (cs : List Condition) → WithinConditions p cs → WithinConditions p' cs
  | [], _ => trivial
  | c :: cs, hcs => ⟨Condition.Within.mono h c hcs.1, WithinConditions.mono h cs hcs.2⟩

theorem WithinJoins.mono (h : ∀ id, p id → p' id) :
    (js : List Join) → WithinJoins p js → WithinJoins p' js
  | [], _ => trivial
  | j :: js, hjs => ⟨Join.Within.mono h j hjs.1, WithinJoins.mono h js hjs.2⟩

theorem WithinUnions.mono (h : ∀ id, p id → p' id) :
    (us : List Union) → WithinUnions p us → WithinUnions p' us
  | [], _ => trivial
  | u :: us, hus => ⟨Union.Within.mono h u hus.1, WithinUnions.mono h us hus.2⟩

end

/-! ## References of several ranges -/

section Ranges

universe u

variable {ι : Sort u} {range : ι → Nat → Prop}

mutual

/-- References that are in several ranges are in what these have in common. -/
theorem Condition.Within.all : (c : Condition) → (∀ a, c.Within (range a)) →
    c.Within fun id => ∀ a, range a id
  | .group _ members, h => by
      simp only [Condition.Within] at h ⊢
      exact Group.Within.all members h
  | .amongRows _ _ source _, h | .compareRow _ _ _ source, h | .existence _ source _, h => by
      simp only [Condition.Within] at h ⊢
      exact Source.Within.all source h
  | .sql .., _ | .compare .., _ | .among .., _ | .isNull .., _ | .between .., _ | .datePart .., _
  | .compareColumns .., _ => by simp only [Condition.Within]

theorem Group.Within.all : (m : Group) → (∀ a, m.Within (range a)) →
    m.Within fun id => ∀ a, range a id
  | .query q, h => by
      simp only [Group.Within] at h ⊢
      exact Query.Within.all q h
  | .join j, h => by
      simp only [Group.Within] at h ⊢
      exact Join.Within.all j h

theorem Source.Within.all : (s : Source) → (∀ a, s.Within (range a)) →
    s.Within fun id => ∀ a, range a id
  | .own q, h => by
      simp only [Source.Within] at h ⊢
      exact Query.Within.all q h
  | .shared id, h => by
      simp only [Source.Within] at h ⊢
      exact h
  | .other _, _ => by simp only [Source.Within]

theorem Join.Within.all : (j : Join) → (∀ a, j.Within (range a)) →
    j.Within fun id => ∀ a, range a id
  | ⟨_, _, conditions⟩, h => by
      simp only [Join.Within] at h ⊢
      exact WithinConditions.all conditions h

theorem Union.Within.all : (u : Union) → (∀ a, u.Within (range a)) →
    u.Within fun id => ∀ a, range a id
  | ⟨source, _⟩, h => by
      simp only [Union.Within] at h ⊢
      exact Source.Within.all source h

theorem Query.Within.all : (q : Query) → (∀ a, q.Within (range a)) →
    q.Within fun id => ∀ a, range a id
  | ⟨_, joins, conditions, havings, unions⟩, h => by
      simp only [Query.Within] at h ⊢
      exact ⟨WithinJoins.all joins fun a => (h a).1,
        WithinConditions.all conditions fun a => (h a).2.1,
        WithinConditions.all havings fun a => (h a).2.2.1,
        WithinUnions.all unions fun a => (h a).2.2.2⟩

theorem WithinConditions.all : (cs : List Condition) → (∀ a, WithinConditions (range a) cs) →
    WithinConditions (fun id => ∀ a, range a id) cs
  | [], _ => trivial
  | c :: cs, h =>
      ⟨Condition.Within.all c fun a => (h a).1, WithinConditions.all cs fun a => (h a).2⟩

theorem WithinJoins.all : (js : List Join) → (∀ a, WithinJoins (range a) js) →
    WithinJoins (fun id => ∀ a, range a id) js
  | [], _ => trivial
  | j :: js, h => ⟨Join.Within.all j fun a => (h a).1, WithinJoins.all js fun a => (h a).2⟩

theorem WithinUnions.all : (us : List Union) → (∀ a, WithinUnions (range a) us) →
    WithinUnions (fun id => ∀ a, range a id) us
  | [], _ => trivial
  | u :: us, h => ⟨Union.Within.all u fun a => (h a).1, WithinUnions.all us fun a => (h a).2⟩

end

end Ranges

theorem Source.within_true (s : Source) : s.Within fun _ => True :=
  (@Source.Within.all False nofun s nofun).mono (fun _ _ => trivial) s

theorem Query.within_true (q : Query) : q.Within fun _ => True :=
  (@Query.Within.all False nofun q nofun).mono (fun _ _ => trivial) q

/-! ## References in a row -/

mutual

/-- The references of a condition have a property when each of them has it. -/
theorem Condition.within_iff_references : (c : Condition) →
    (c.Within p ↔ ∀ id ∈ c.references, p id)
  | .group _ members => by
      simp only [Condition.Within, Condition.references]
      exact Group.within_iff_references members
  | .amongRows _ _ source _ | .compareRow _ _ _ source | .existence _ source _ => by
      simp only [Condition.Within, Condition.references]
      exact Source.within_iff_references source
  | .sql .. | .compare .. | .among .. | .isNull .. | .between .. | .datePart ..
  | .compareColumns .. => by
      simp only [Condition.Within, Condition.references, List.not_mem_nil, false_implies,
        implies_true]

theorem Group.within_iff_references : (m : Group) → (m.Within p ↔ ∀ id ∈ m.references, p id)
  | .query q => by
      simp only [Group.Within, Group.references]
      exact Query.within_iff_references q
  | .join j => by
      simp only [Group.Within, Group.references]
      exact Join.within_iff_references j

theorem Source.within_iff_references : (s : Source) → (s.Within p ↔ ∀ id ∈ s.references, p id)
  | .own q => by
      simp only [Source.Within, Source.references]
      exact Query.within_iff_references q
  | .shared id => by simp only [Source.Within, Source.references, List.forall_mem_singleton]
  | .other _ => by
      simp only [Source.Within, Source.references, List.not_mem_nil, false_implies, implies_true]

theorem Join.within_iff_references : (j : Join) → (j.Within p ↔ ∀ id ∈ j.references, p id)
  | ⟨_, _, conditions⟩ => by
      simp only [Join.Within, Join.references]
      exact withinConditions_iff_references conditions

theorem Union.within_iff_references : (u : Union) → (u.Within p ↔ ∀ id ∈ u.references, p id)
  | ⟨source, _⟩ => by
      simp only [Union.Within, Union.references]
      exact Source.within_iff_references source

theorem Query.within_iff_references : (q : Query) → (q.Within p ↔ ∀ id ∈ q.references, p id)
  | ⟨_, joins, conditions, havings, unions⟩ => by
      simp only [Query.Within, Query.references, List.forall_mem_append, and_assoc,
        withinJoins_iff_references joins, withinConditions_iff_references conditions,
        withinConditions_iff_references havings, withinUnions_iff_references unions]

theorem withinConditions_iff_references : (cs : List Condition) →
    (WithinConditions p cs ↔ ∀ id ∈ referencesOfConditions cs, p id)
  | [] => by
      simp only [WithinConditions, referencesOfConditions, List.not_mem_nil, false_implies,
        implies_true]
  | c :: cs => by
      simp only [WithinConditions, referencesOfConditions, List.forall_mem_append,
        Condition.within_iff_references c, withinConditions_iff_references cs]

theorem withinJoins_iff_references : (js : List Join) →
    (WithinJoins p js ↔ ∀ id ∈ referencesOfJoins js, p id)
  | [] => by
      simp only [WithinJoins, referencesOfJoins, List.not_mem_nil, false_implies, implies_true]
  | j :: js => by
      simp only [WithinJoins, referencesOfJoins, List.forall_mem_append,
        Join.within_iff_references j, withinJoins_iff_references js]

theorem withinUnions_iff_references : (us : List Union) →
    (WithinUnions p us ↔ ∀ id ∈ referencesOfUnions us, p id)
  | [] => by
      simp only [WithinUnions, referencesOfUnions, List.not_mem_nil, false_implies, implies_true]
  | u :: us => by
      simp only [WithinUnions, referencesOfUnions, List.forall_mem_append,
        Union.within_iff_references u, withinUnions_iff_references us]

end

/-! ## References of a resolved query -/

variable {find find' : Nat → Source}

mutual

/-- What is put in the places of shared queries brings its own references. -/
theorem Condition.Within.resolve (h : ∀ id, p id → (find id).Within p') :
    (c : Condition) → c.Within p → (c.resolve find).Within p'
  | .group _ members, hc => by
      simp only [Condition.resolve, Condition.Within] at hc ⊢
      exact Group.Within.resolve h members hc
  | .amongRows _ _ source _, hc | .compareRow _ _ _ source, hc | .existence _ source _, hc => by
      simp only [Condition.resolve, Condition.Within] at hc ⊢
      exact Source.Within.resolve h source hc
  | .sql .., _ | .compare .., _ | .among .., _ | .isNull .., _ | .between .., _ | .datePart .., _
  | .compareColumns .., _ => by simp only [Condition.resolve, Condition.Within]

theorem Group.Within.resolve (h : ∀ id, p id → (find id).Within p') :
    (m : Group) → m.Within p → (m.resolve find).Within p'
  | .query q, hm => by
      simp only [Group.resolve, Group.Within] at hm ⊢
      exact Query.Within.resolve h q hm
  | .join j, hm => by
      simp only [Group.resolve, Group.Within] at hm ⊢
      exact Join.Within.resolve h j hm

theorem Source.Within.resolve (h : ∀ id, p id → (find id).Within p') :
    (s : Source) → s.Within p → (s.resolve find).Within p'
  | .own q, hs => by
      simp only [Source.resolve, Source.Within] at hs ⊢
      exact Query.Within.resolve h q hs
  | .shared id, hs => by
      simp only [Source.resolve, Source.Within] at hs ⊢
      exact h id hs
  | .other _, _ => by simp only [Source.resolve, Source.Within]

theorem Join.Within.resolve (h : ∀ id, p id → (find id).Within p') :
    (j : Join) → j.Within p → (j.resolve find).Within p'
  | ⟨_, _, conditions⟩, hj => by
      simp only [Join.resolve, Join.Within] at hj ⊢
      exact WithinConditions.resolve h conditions hj

theorem Union.Within.resolve (h : ∀ id, p id → (find id).Within p') :
    (u : Union) → u.Within p → (u.resolve find).Within p'
  | ⟨source, _⟩, hu => by
      simp only [Union.resolve, Union.Within] at hu ⊢
      exact Source.Within.resolve h source hu

theorem Query.Within.resolve (h : ∀ id, p id → (find id).Within p') :
    (q : Query) → q.Within p → (q.resolve find).Within p'
  | ⟨_, joins, conditions, havings, unions⟩, hq => by
      simp only [Query.resolve, Query.Within] at hq ⊢
      exact ⟨WithinJoins.resolve h joins hq.1, WithinConditions.resolve h conditions hq.2.1,
        WithinConditions.resolve h havings hq.2.2.1, WithinUnions.resolve h unions hq.2.2.2⟩

theorem WithinConditions.resolve (h : ∀ id, p id → (find id).Within p') :
    (cs : List Condition) → WithinConditions p cs → WithinConditions p' (resolveConditions find cs)
  | [], _ => trivial
  | c :: cs, hcs => ⟨Condition.Within.resolve h c hcs.1, WithinConditions.resolve h cs hcs.2⟩

theorem WithinJoins.resolve (h : ∀ id, p id → (find id).Within p') :
    (js : List Join) → WithinJoins p js → WithinJoins p' (resolveJoins find js)
  | [], _ => trivial
  | j :: js, hjs => ⟨Join.Within.resolve h j hjs.1, WithinJoins.resolve h js hjs.2⟩

theorem WithinUnions.resolve (h : ∀ id, p id → (find id).Within p') :
    (us : List Union) → WithinUnions p us → WithinUnions p' (resolveUnions find us)
  | [], _ => trivial
  | u :: us, hus => ⟨Union.Within.resolve h u hus.1, WithinUnions.resolve h us hus.2⟩

end

theorem Source.within_resolve (h : ∀ id, (find id).Within p) (s : Source) :
    (s.resolve find).Within p :=
  Source.Within.resolve (fun id _ => h id) s s.within_true

theorem Query.within_resolve (h : ∀ id, (find id).Within p) (q : Query) :
    (q.resolve find).Within p :=
  Query.Within.resolve (fun id _ => h id) q q.within_true

/-! ## Resolving twice -/

mutual

theorem Condition.resolve_resolve : (c : Condition) →
    (c.resolve find).resolve find' = c.resolve fun id => (find id).resolve find'
  | .group _ members => by simp only [Condition.resolve, Group.resolve_resolve members]
  | .amongRows _ _ source _ | .compareRow _ _ _ source | .existence _ source _ => by
      simp only [Condition.resolve, Source.resolve_resolve source]
  | .sql .. | .compare .. | .among .. | .isNull .. | .between .. | .datePart ..
  | .compareColumns .. => by simp only [Condition.resolve]

theorem Group.resolve_resolve : (m : Group) →
    (m.resolve find).resolve find' = m.resolve fun id => (find id).resolve find'
  | .query q => by simp only [Group.resolve, Query.resolve_resolve q]
  | .join j => by simp only [Group.resolve, Join.resolve_resolve j]

theorem Source.resolve_resolve : (s : Source) →
    (s.resolve find).resolve find' = s.resolve fun id => (find id).resolve find'
  | .own q => by simp only [Source.resolve, Query.resolve_resolve q]
  | .shared _ => by simp only [Source.resolve]
  | .other _ => by simp only [Source.resolve]

theorem Join.resolve_resolve : (j : Join) →
    (j.resolve find).resolve find' = j.resolve fun id => (find id).resolve find'
  | ⟨_, _, conditions⟩ => by simp only [Join.resolve, resolveConditions_resolve conditions]

theorem Union.resolve_resolve : (u : Union) →
    (u.resolve find).resolve find' = u.resolve fun id => (find id).resolve find'
  | ⟨source, _⟩ => by simp only [Union.resolve, Source.resolve_resolve source]

/-- Resolving what was put in comes to the same as putting it in resolved. -/
theorem Query.resolve_resolve : (q : Query) →
    (q.resolve find).resolve find' = q.resolve fun id => (find id).resolve find'
  | ⟨_, joins, conditions, havings, unions⟩ => by
      simp only [Query.resolve, resolveJoins_resolve joins, resolveConditions_resolve conditions,
        resolveConditions_resolve havings, resolveUnions_resolve unions]

theorem resolveConditions_resolve : (cs : List Condition) →
    resolveConditions find' (resolveConditions find cs)
      = resolveConditions (fun id => (find id).resolve find') cs
  | [] => rfl
  | c :: cs => by
      simp only [resolveConditions, Condition.resolve_resolve c, resolveConditions_resolve cs]

theorem resolveJoins_resolve : (js : List Join) →
    resolveJoins find' (resolveJoins find js) = resolveJoins (fun id => (find id).resolve find') js
  | [] => rfl
  | j :: js => by simp only [resolveJoins, Join.resolve_resolve j, resolveJoins_resolve js]

theorem resolveUnions_resolve : (us : List Union) →
    resolveUnions find' (resolveUnions find us)
      = resolveUnions (fun id => (find id).resolve find') us
  | [] => rfl
  | u :: us => by simp only [resolveUnions, Union.resolve_resolve u, resolveUnions_resolve us]

end

end QueryClient
