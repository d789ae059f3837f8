import QueryClient.Proofs.Query.References
import QueryClient.Query.Bindings
import QueryClient.Query.Compile

/-!
# Readings of queries

The text and the values of a query are read from its parts and, where it refers to shared queries,
from these. More can be read when more can be read of the shared queries, and what could be read
stays as it is.
-/

namespace QueryClient

/-! ## Results that may have no end -/

/-- A result is another one, unless it has no end. -/
def Below {α : Type} (x y : Except Fault α) : Prop :=
  x = .error .endless ∨ x = y

namespace Below

variable {α β : Type} {x y z : Except Fault α}

theorem refl (x : Except Fault α) : Below x x := .inr rfl

theorem endless (y : Except Fault α) : Below (.error .endless) y := .inl rfl

theorem antisymm (h : Below x y) (h' : Below y x) : x = y := by
  rcases h with rfl | rfl
  · rcases h' with rfl | rfl
    · rfl
    · rfl
  · rfl

theorem eq_of_ne (h : Below x y) (hx : x ≠ .error .endless) : x = y :=
  h.resolve_left hx

theorem bind {f f' : α → Except Fault β} (h : Below x y) (hf : ∀ a, Below (f a) (f' a)) :
    Below (x >>= f) (y >>= f') := by
  rcases h with rfl | rfl
  · exact .inl rfl
  · cases x with
    | error fault => exact .inr rfl
    | ok a => exact hf a

end Below

theorem Condition.kind_resolve (find : Nat → Source) (c : Condition) :
    (c.resolve find).kind = c.kind := by
  cases c <;> simp only [Condition.resolve, Condition.kind]

theorem Condition.boolean_resolve (find : Nat → Source) (c : Condition) :
    (c.resolve find).boolean = c.boolean := by
  cases c <;> simp only [Condition.resolve, Condition.boolean]

variable {p : Nat → Prop} {find find' : Nat → Source}

/-! ## Texts -/

namespace Grammar

variable (g : Grammar)

mutual

theorem condition_below (h : ∀ id, p id → Below (g.source (find id)) (g.source (find' id))) :
    (c : Condition) → c.Within p →
      Below (g.condition (c.resolve find)) (g.condition (c.resolve find'))
  | .group _ members, hc => by
      simp only [Condition.Within] at hc
      simp only [Condition.resolve, condition_group]
      exact (group_below h members hc).bind fun _ => .refl _
  | .amongRows _ _ source _, hc => by
      simp only [Condition.Within] at hc
      simp only [Condition.resolve, condition]
      exact (Below.refl _).bind fun _ => (source_below h source hc).bind fun _ => .refl _
  | .compareRow _ _ _ source, hc => by
      simp only [Condition.Within] at hc
      simp only [Condition.resolve, condition]
      exact (source_below h source hc).bind fun _ => .refl _
  | .existence _ source _, hc => by
      simp only [Condition.Within] at hc
      simp only [Condition.resolve, condition]
      exact (source_below h source hc).bind fun _ => .refl _
  | .sql .., _ | .compare .., _ | .among .., _ | .isNull .., _ | .between .., _ | .datePart .., _
  | .compareColumns .., _ => by
      simp only [Condition.resolve]
      exact .refl _

theorem group_below (h : ∀ id, p id → Below (g.source (find id)) (g.source (find' id))) :
    (m : Group) → m.Within p → Below (g.group (m.resolve find)) (g.group (m.resolve find'))
  | .query ⟨_, _, conditions, _, _⟩, hm => by
      simp only [Group.Within, Query.Within] at hm
      simp only [Group.resolve, Query.resolve, group]
      exact conditions_below h conditions hm.2.1
  | .join ⟨_, _, conditions⟩, hm => by
      simp only [Group.Within, Join.Within] at hm
      simp only [Group.resolve, Join.resolve, group]
      exact conditions_below h conditions hm

theorem source_below (h : ∀ id, p id → Below (g.source (find id)) (g.source (find' id))) :
    (s : Source) → s.Within p → Below (g.source (s.resolve find)) (g.source (s.resolve find'))
  | .own q, hs => by
      simp only [Source.Within] at hs
      simp only [Source.resolve, source]
      exact query_below h q hs
  | .shared id, hs => by
      simp only [Source.Within] at hs
      simp only [Source.resolve]
      exact h id hs
  | .other _, _ => by
      simp only [Source.resolve]
      exact .refl _

theorem join_below (h : ∀ id, p id → Below (g.source (find id)) (g.source (find' id))) :
    (j : Join) → j.Within p → Below (g.join (j.resolve find)) (g.join (j.resolve find'))
  | ⟨_, _, conditions⟩, hj => by
      simp only [Join.Within] at hj
      simp only [Join.resolve, join]
      exact (Below.refl _).bind fun _ => (conditions_below h conditions hj).bind fun _ => .refl _

theorem union_below (h : ∀ id, p id → Below (g.source (find id)) (g.source (find' id))) :
    (u : Union) → u.Within p → Below (g.union (u.resolve find)) (g.union (u.resolve find'))
  | ⟨source, _⟩, hu => by
      simp only [Union.Within] at hu
      simp only [Union.resolve, union]
      exact (source_below h source hu).bind fun _ => .refl _

theorem query_below (h : ∀ id, p id → Below (g.source (find id)) (g.source (find' id))) :
    (q : Query) → q.Within p → Below (g.query (q.resolve find)) (g.query (q.resolve find'))
  | ⟨_, joins, conditions, havings, unions⟩, hq => by
      simp only [Query.Within] at hq
      simp only [Query.resolve, query]
      refine (Below.refl _).bind fun _ => (Below.refl _).bind fun _ => ?_
      refine (joins_below h joins hq.1).bind fun _ => ?_
      refine (conditions_below h conditions hq.2.1).bind fun _ => (Below.refl _).bind fun _ => ?_
      refine (conditions_below h havings hq.2.2.1).bind fun _ => (Below.refl _).bind fun _ => ?_
      exact (unions_below h unions hq.2.2.2).bind fun _ => .refl _

theorem conditions_below (h : ∀ id, p id → Below (g.source (find id)) (g.source (find' id))) :
    (cs : List Condition) → WithinConditions p cs →
      Below (g.conditions (resolveConditions find cs)) (g.conditions (resolveConditions find' cs))
  | [], _ => .refl _
  | c :: cs, hcs => by
      simp only [resolveConditions, conditions, checkKind, Condition.kind_resolve,
        Condition.boolean_resolve]
      refine (Below.refl _).bind fun _ => (condition_below h c hcs.1).bind fun _ => ?_
      exact (conditions_below h cs hcs.2).bind fun _ => .refl _

theorem joins_below (h : ∀ id, p id → Below (g.source (find id)) (g.source (find' id))) :
    (js : List Join) → WithinJoins p js →
      Below (g.joins (resolveJoins find js)) (g.joins (resolveJoins find' js))
  | [], _ => .refl _
  | j :: js, hjs => by
      simp only [resolveJoins, joins]
      exact (join_below h j hjs.1).bind fun _ => (joins_below h js hjs.2).bind fun _ => .refl _

theorem unions_below (h : ∀ id, p id → Below (g.source (find id)) (g.source (find' id))) :
    (us : List Union) → WithinUnions p us →
      Below (g.unions (resolveUnions find us)) (g.unions (resolveUnions find' us))
  | [], _ => .refl _
  | u :: us, hus => by
      simp only [resolveUnions, unions]
      exact (union_below h u hus.1).bind fun _ => (unions_below h us hus.2).bind fun _ => .refl _

end

end Grammar

/-! ## Values -/

mutual

theorem Condition.bindings_below
    (h : ∀ id, p id → Below (find id).bindings (find' id).bindings) :
    (c : Condition) → c.Within p → Below (c.resolve find).bindings (c.resolve find').bindings
  | .group _ members, hc => by
      simp only [Condition.Within] at hc
      simp only [Condition.resolve, Condition.bindings]
      exact Group.bindings_below h members hc
  | .amongRows _ _ source _, hc | .compareRow _ _ _ source, hc | .existence _ source _, hc => by
      simp only [Condition.Within] at hc
      simp only [Condition.resolve, Condition.bindings]
      exact Source.bindings_below h source hc
  | .sql .., _ | .compare .., _ | .among .., _ | .isNull .., _ | .between .., _ | .datePart .., _
  | .compareColumns .., _ => by
      simp only [Condition.resolve]
      exact .refl _

theorem Group.bindings_below
    (h : ∀ id, p id → Below (find id).bindings (find' id).bindings) :
    (m : Group) → m.Within p → Below (m.resolve find).bindings (m.resolve find').bindings
  | .query q, hm => by
      simp only [Group.Within] at hm
      simp only [Group.resolve, Group.bindings]
      exact Query.bindings_below h q hm
  | .join j, hm => by
      simp only [Group.Within] at hm
      simp only [Group.resolve, Group.bindings]
      exact Join.bindings_below h j hm

theorem Source.bindings_below
    (h : ∀ id, p id → Below (find id).bindings (find' id).bindings) :
    (s : Source) → s.Within p → Below (s.resolve find).bindings (s.resolve find').bindings
  | .own q, hs => by
      simp only [Source.Within] at hs
      simp only [Source.resolve, Source.bindings]
      exact Query.bindings_below h q hs
  | .shared id, hs => by
      simp only [Source.Within] at hs
      simp only [Source.resolve]
      exact h id hs
  | .other _, _ => by
      simp only [Source.resolve]
      exact .refl _

theorem Join.bindings_below
    (h : ∀ id, p id → Below (find id).bindings (find' id).bindings) :
    (j : Join) → j.Within p → Below (j.resolve find).bindings (j.resolve find').bindings
  | ⟨_, _, conditions⟩, hj => by
      simp only [Join.Within] at hj
      simp only [Join.resolve, Join.bindings]
      exact bindingsOfConditions_below h conditions hj

theorem Union.bindings_below
    (h : ∀ id, p id → Below (find id).bindings (find' id).bindings) :
    (u : Union) → u.Within p → Below (u.resolve find).bindings (u.resolve find').bindings
  | ⟨source, _⟩, hu => by
      simp only [Union.Within] at hu
      simp only [Union.resolve, Union.bindings]
      exact Source.bindings_below h source hu

theorem Query.bindings_below
    (h : ∀ id, p id → Below (find id).bindings (find' id).bindings) :
    (q : Query) → q.Within p → Below (q.resolve find).bindings (q.resolve find').bindings
  | ⟨_, joins, conditions, havings, unions⟩, hq => by
      simp only [Query.Within] at hq
      simp only [Query.resolve, Query.bindings]
      refine (bindingsOfJoins_below h joins hq.1).bind fun _ => ?_
      refine (bindingsOfConditions_below h conditions hq.2.1).bind fun _ => ?_
      refine (bindingsOfConditions_below h havings hq.2.2.1).bind fun _ => ?_
      exact (bindingsOfUnions_below h unions hq.2.2.2).bind fun _ => .refl _

theorem bindingsOfConditions_below
    (h : ∀ id, p id → Below (find id).bindings (find' id).bindings) :
    (cs : List Condition) → WithinConditions p cs →
      Below (bindingsOfConditions (resolveConditions find cs))
        (bindingsOfConditions (resolveConditions find' cs))
  | [], _ => .refl _
  | c :: cs, hcs => by
      simp only [resolveConditions, bindingsOfConditions]
      refine (Condition.bindings_below h c hcs.1).bind fun _ => ?_
      exact (bindingsOfConditions_below h cs hcs.2).bind fun _ => .refl _

theorem bindingsOfJoins_below
    (h : ∀ id, p id → Below (find id).bindings (find' id).bindings) :
    (js : List Join) → WithinJoins p js →
      Below (bindingsOfJoins (resolveJoins find js)) (bindingsOfJoins (resolveJoins find' js))
  | [], _ => .refl _
  | j :: js, hjs => by
      simp only [resolveJoins, bindingsOfJoins]
      refine (Join.bindings_below h j hjs.1).bind fun _ => ?_
      exact (bindingsOfJoins_below h js hjs.2).bind fun _ => .refl _

theorem bindingsOfUnions_below
    (h : ∀ id, p id → Below (find id).bindings (find' id).bindings) :
    (us : List Union) → WithinUnions p us →
      Below (bindingsOfUnions (resolveUnions find us)) (bindingsOfUnions (resolveUnions find' us))
  | [], _ => .refl _
  | u :: us, hus => by
      simp only [resolveUnions, bindingsOfUnions]
      refine (Union.bindings_below h u hus.1).bind fun _ => ?_
      exact (bindingsOfUnions_below h us hus.2).bind fun _ => .refl _

end

/-! ## Readings -/

/-- A way of reading queries that knows of shared ones only what it reads of them. -/
structure Reading (α : Type) where
  read : Source → Except Fault α
  read_shared : ∀ id, read (.shared id) = .error .endless
  below : ∀ {p : Nat → Prop} {find find' : Nat → Source},
    (∀ id, p id → Below (read (find id)) (read (find' id))) →
      ∀ s : Source, s.Within p → Below (read (s.resolve find)) (read (s.resolve find'))

def Grammar.reading (g : Grammar) : Reading String where
  read := g.source
  read_shared id := by rw [Grammar.source]
  below := g.source_below

def bindingsReading : Reading (List Value) where
  read := Source.bindings
  read_shared id := by rw [Source.bindings]
  below := Source.bindings_below

/-- A query is read alike when the shared ones are. -/
theorem Reading.congr {α : Type} (r : Reading α)
    (h : ∀ id, p id → r.read (find id) = r.read (find' id)) {s : Source} (hs : s.Within p) :
    r.read (s.resolve find) = r.read (s.resolve find') := by
  apply Below.antisymm
  · exact r.below (fun id hid => .inr (h id hid)) s hs
  · exact r.below (fun id hid => .inr (h id hid).symm) s hs

end QueryClient
