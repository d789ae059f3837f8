import QueryClient.Proofs.Query.NameRecursion
import QueryClient.Proofs.Query.Readings

/-!
# Queries without shared ones

A query that refers to no shared queries is read from its own parts alone, and reading it comes to
an end: its values always do, and its text does as long as the names in it can be written.
-/

namespace QueryClient

/-! ## Results that have an end -/

def Ends {α : Type} (x : Except Fault α) : Prop :=
  x ≠ .error .endless

namespace Ends

variable {α β : Type} {x : Except Fault α}

theorem ok (a : α) : Ends (.ok a : Except Fault α) := nofun

theorem error {fault : Fault} (h : fault ≠ .endless) : Ends (.error fault : Except Fault α) := by
  intro heq
  cases heq
  exact h rfl

theorem bind {f : α → Except Fault β} (h : Ends x) (hf : ∀ a, Ends (f a)) : Ends (x >>= f) := by
  cases x with
  | error fault =>
      intro heq
      cases heq
      exact h rfl
  | ok a => exact hf a

theorem map (h : Ends x) (f : α → β) : Ends (x.map f) := by
  cases x with
  | error fault =>
      intro heq
      cases heq
      exact h rfl
  | ok a => exact ok _

theorem mapM {f : α → Except Fault β} (hf : ∀ a, Ends (f a)) (as : List α) :
    Ends (as.mapM f) := by
  induction as with
  | nil => exact ok []
  | cons a as ih =>
      rw [List.mapM_cons]
      exact (hf a).bind fun _ => ih.bind fun _ => ok _

end Ends

/-! ## Texts -/

namespace Grammar

variable {g : Grammar}

section Flat

variable (hfront : '.' ∉ g.tablePrefix.toList)
include hfront

theorem named_ends (prefixAlias : Bool) (cs : List Char) :
    Ends (Identifier.named g.tablePrefix.toList prefixAlias cs) := by
  obtain ⟨out, hout⟩ := (Identifier.named_ok_iff _ prefixAlias cs).mpr
    (Identifier.comesToEnd_of_not_mem hfront cs)
  rw [hout]
  exact .ok out

theorem column_ends (v : Value) : Ends (g.column v) := by
  unfold column Identifier.ofColumn Identifier.ofName
  split
  · exact .ok _
  · exact (named_ends hfront _ _).map _
  · exact .error nofun
  · exact .error nofun
  · exact .error nofun

theorem table_ends (v : Value) : Ends (g.table v) := by
  unfold table Identifier.ofTable
  split
  · exact .ok _
  · exact (named_ends hfront _ _).map _
  · exact .error nofun

theorem columns_ends (vs : List Value) : Ends (g.columns vs) :=
  (Ends.mapM (column_ends hfront) vs).bind fun _ => .ok _

theorem selection_ends (o : Outline) : Ends (g.selection o) := by
  unfold selection
  split
  · exact (columns_ends hfront _).bind fun _ => .ok _
  · exact (columns_ends hfront _).bind fun _ => .ok _

theorem fromTable_ends (o : Outline) : Ends (g.fromTable o) := by
  unfold fromTable
  split
  · exact .ok _
  · exact (table_ends hfront _).bind fun _ => .ok _

theorem grouping_ends (o : Outline) : Ends (g.grouping o) := by
  unfold grouping
  split
  · exact .ok _
  · exact (columns_ends hfront _).bind fun _ => .ok _

theorem orderEntry_ends (order : Order) : Ends (g.orderEntry order) := by
  unfold orderEntry
  split
  · exact (column_ends hfront _).bind fun _ => .ok _
  · exact .error nofun
  · exact .ok _

omit hfront in
theorem orderText_ends (v : Value) : Ends (orderText v) := by
  unfold orderText
  split
  · exact .ok _
  · exact .error nofun

theorem ordering_ends (orders : List Order) : Ends (g.ordering orders) := by
  unfold ordering
  split
  · exact .ok _
  · exact (Ends.mapM (orderEntry_ends hfront) orders).bind fun entries =>
      (Ends.mapM orderText_ends entries).bind fun _ => .ok _

theorem unionTail_ends (o : Outline) : Ends (g.unionTail o) :=
  (ordering_ends hfront _).bind fun _ => .ok _

end Flat

theorem checkKind_ends (c : Condition) : Ends (g.checkKind c) := by
  unfold checkKind
  split
  · exact .error nofun
  · exact .ok ()

mutual

theorem condition_ends (hfront : '.' ∉ g.tablePrefix.toList) :
    (c : Condition) → c.Within (fun _ => False) → Ends (g.condition c)
  | .group _ members, h => by
      simp only [Condition.Within] at h
      rw [condition_group]
      exact (group_ends hfront members h).bind fun _ => .ok _
  | .amongRows _ column source _, h => by
      simp only [Condition.Within] at h
      rw [condition]
      exact (column_ends hfront column).bind fun _ =>
        (source_ends hfront source h).bind fun _ => .ok _
  | .compareRow _ column _ source, h => by
      simp only [Condition.Within] at h
      rw [condition]
      exact (source_ends hfront source h).bind fun _ =>
        (column_ends hfront column).bind fun _ => .ok _
  | .existence _ source _, h => by
      simp only [Condition.Within] at h
      rw [condition]
      exact (source_ends hfront source h).bind fun _ => .ok _
  | .sql .., _ => by
      rw [condition]
      exact .ok _
  | .among _ column values _, _ => by
      rw [condition]
      split
      · exact .ok _
      · exact (column_ends hfront column).bind fun _ => .ok _
  | .compare _ column .., _ | .isNull _ column _, _ | .between _ column .., _
  | .datePart _ _ column .., _ => by
      rw [condition]
      exact (column_ends hfront column).bind fun _ => .ok _
  | .compareColumns _ first _ second, _ => by
      rw [condition]
      exact (column_ends hfront first).bind fun _ => (column_ends hfront second).bind fun _ => .ok _

theorem group_ends (hfront : '.' ∉ g.tablePrefix.toList) :
    (m : Group) → m.Within (fun _ => False) → Ends (g.group m)
  | .query ⟨_, _, conditions, _, _⟩, h => by
      simp only [Group.Within, Query.Within] at h
      rw [group]
      exact conditions_ends hfront conditions h.2.1
  | .join ⟨_, _, conditions⟩, h => by
      simp only [Group.Within, Join.Within] at h
      rw [group]
      exact conditions_ends hfront conditions h

theorem source_ends (hfront : '.' ∉ g.tablePrefix.toList) :
    (s : Source) → s.Within (fun _ => False) → Ends (g.source s)
  | .own q, h => by
      simp only [Source.Within] at h
      rw [source]
      exact query_ends hfront q h
  | .shared _, h => by
      simp only [Source.Within] at h
  | .other _, _ => by
      rw [source]
      exact .error nofun

theorem join_ends (hfront : '.' ∉ g.tablePrefix.toList) :
    (j : Join) → j.Within (fun _ => False) → Ends (g.join j)
  | ⟨_, table, conditions⟩, h => by
      simp only [Join.Within] at h
      rw [join]
      exact (table_ends hfront table).bind fun _ =>
        (conditions_ends hfront conditions h).bind fun _ => .ok _

theorem union_ends (hfront : '.' ∉ g.tablePrefix.toList) :
    (u : Union) → u.Within (fun _ => False) → Ends (g.union u)
  | ⟨source, _⟩, h => by
      simp only [Union.Within] at h
      rw [union]
      exact (source_ends hfront source h).bind fun _ => .ok _

/-- The text of a query without references comes to an end when no prefix has a dot. -/
theorem query_ends (hfront : '.' ∉ g.tablePrefix.toList) :
    (q : Query) → q.Within (fun _ => False) → Ends (g.query q)
  | ⟨outline, joins, conditions, havings, unions⟩, h => by
      simp only [Query.Within] at h
      obtain ⟨hjoins, hconditions, hhavings, hunions⟩ := h
      rw [query]
      refine (selection_ends hfront outline).bind fun _ => ?_
      refine (fromTable_ends hfront outline).bind fun _ => ?_
      refine (joins_ends hfront joins hjoins).bind fun _ => ?_
      refine (conditions_ends hfront conditions hconditions).bind fun _ => ?_
      refine (grouping_ends hfront outline).bind fun _ => ?_
      refine (conditions_ends hfront havings hhavings).bind fun _ => ?_
      refine (ordering_ends hfront outline.orders).bind fun _ => ?_
      refine (unions_ends hfront unions hunions).bind fun _ => ?_
      split
      · exact .ok _
      · exact (unionTail_ends hfront outline).bind fun _ => .ok _

theorem conditions_ends (hfront : '.' ∉ g.tablePrefix.toList) :
    (cs : List Condition) → WithinConditions (fun _ => False) cs →
    Ends (g.conditions cs)
  | [], _ => by
      rw [conditions]
      exact .ok _
  | c :: cs, h => by
      rw [conditions]
      exact (checkKind_ends c).bind fun _ => (condition_ends hfront c h.1).bind fun _ =>
        (conditions_ends hfront cs h.2).bind fun _ => .ok _

theorem joins_ends (hfront : '.' ∉ g.tablePrefix.toList) :
    (js : List Join) → WithinJoins (fun _ => False) js → Ends (g.joins js)
  | [], _ => by
      rw [joins]
      exact .ok _
  | j :: js, h => by
      rw [joins]
      exact (join_ends hfront j h.1).bind fun _ => (joins_ends hfront js h.2).bind fun _ => .ok _

theorem unions_ends (hfront : '.' ∉ g.tablePrefix.toList) :
    (us : List Union) → WithinUnions (fun _ => False) us → Ends (g.unions us)
  | [], _ => by
      rw [unions]
      exact .ok _
  | u :: us, h => by
      rw [unions]
      exact (union_ends hfront u h.1).bind fun _ => (unions_ends hfront us h.2).bind fun _ => .ok _

end

end Grammar

/-! ## Values -/

mutual

theorem Condition.bindings_ends : (c : Condition) → c.Within (fun _ => False) → Ends c.bindings
  | .group _ members, h => by
      simp only [Condition.Within] at h
      rw [Condition.bindings]
      exact Group.bindings_ends members h
  | .amongRows _ _ source _, h | .compareRow _ _ _ source, h | .existence _ source _, h => by
      simp only [Condition.Within] at h
      rw [Condition.bindings]
      exact Source.bindings_ends source h
  | .sql .., _ | .compare .., _ | .among .., _ | .isNull .., _ | .between .., _ | .datePart .., _
  | .compareColumns .., _ => by
      rw [Condition.bindings]
      exact .ok _

theorem Group.bindings_ends : (m : Group) → m.Within (fun _ => False) → Ends m.bindings
  | .query q, h => by
      simp only [Group.Within] at h
      rw [Group.bindings]
      exact Query.bindings_ends q h
  | .join j, h => by
      simp only [Group.Within] at h
      rw [Group.bindings]
      exact Join.bindings_ends j h

theorem Source.bindings_ends : (s : Source) → s.Within (fun _ => False) → Ends s.bindings
  | .own q, h => by
      simp only [Source.Within] at h
      rw [Source.bindings]
      exact Query.bindings_ends q h
  | .shared _, h => by
      simp only [Source.Within] at h
  | .other _, _ => by
      rw [Source.bindings]
      exact .error nofun

theorem Join.bindings_ends : (j : Join) → j.Within (fun _ => False) → Ends j.bindings
  | ⟨_, _, conditions⟩, h => by
      simp only [Join.Within] at h
      rw [Join.bindings]
      exact bindingsOfConditions_ends conditions h

theorem Union.bindings_ends : (u : Union) → u.Within (fun _ => False) → Ends u.bindings
  | ⟨source, _⟩, h => by
      simp only [Union.Within] at h
      rw [Union.bindings]
      exact Source.bindings_ends source h

/-- The values of a query without references come to an end. -/
theorem Query.bindings_ends : (q : Query) → q.Within (fun _ => False) → Ends q.bindings
  | ⟨_, joins, conditions, havings, unions⟩, h => by
      simp only [Query.Within] at h
      rw [Query.bindings]
      refine (bindingsOfJoins_ends joins h.1).bind fun _ => ?_
      refine (bindingsOfConditions_ends conditions h.2.1).bind fun _ => ?_
      refine (bindingsOfConditions_ends havings h.2.2.1).bind fun _ => ?_
      exact (bindingsOfUnions_ends unions h.2.2.2).bind fun _ => .ok _

theorem bindingsOfConditions_ends : (cs : List Condition) → WithinConditions (fun _ => False) cs →
    Ends (bindingsOfConditions cs)
  | [], _ => by
      rw [bindingsOfConditions]
      exact .ok _
  | c :: cs, h => by
      rw [bindingsOfConditions]
      exact (Condition.bindings_ends c h.1).bind fun _ =>
        (bindingsOfConditions_ends cs h.2).bind fun _ => .ok _

theorem bindingsOfJoins_ends : (js : List Join) → WithinJoins (fun _ => False) js →
    Ends (bindingsOfJoins js)
  | [], _ => by
      rw [bindingsOfJoins]
      exact .ok _
  | j :: js, h => by
      rw [bindingsOfJoins]
      exact (Join.bindings_ends j h.1).bind fun _ =>
        (bindingsOfJoins_ends js h.2).bind fun _ => .ok _

theorem bindingsOfUnions_ends : (us : List Union) → WithinUnions (fun _ => False) us →
    Ends (bindingsOfUnions us)
  | [], _ => by
      rw [bindingsOfUnions]
      exact .ok _
  | u :: us, h => by
      rw [bindingsOfUnions]
      exact (Union.bindings_ends u h.1).bind fun _ =>
        (bindingsOfUnions_ends us h.2).bind fun _ => .ok _

end

end QueryClient
