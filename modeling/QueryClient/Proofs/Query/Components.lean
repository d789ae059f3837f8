import QueryClient.Proofs.Query.Groups

/-!
# Components of queries

A query consists of components, and a change that works on each of them by itself and leaves alone
all but a few can be made before or after another one that leaves alone these.
-/

namespace QueryClient

/-- A part of a query by itself, or the tree of conditions. -/
inductive Component where
  | part (part : Part)
  | wheres
deriving DecidableEq

/-- Two queries read the same in a component. -/
def Component.Agree (q q' : Query) : Component → Prop
  | .wheres => visibleConditions q.conditions = visibleConditions q'.conditions
  | .part .table => q.outline.table = q'.outline.table
  | .part .columns => q.outline.columns = q'.outline.columns
  | .part .distinct => q.outline.distinct = q'.outline.distinct
  | .part .aggregate => q.outline.aggregate = q'.outline.aggregate
  | .part .joins => q.joins = q'.joins
  | .part .groups => q.outline.groups = q'.outline.groups
  | .part .havings => q.havings = q'.havings
  | .part .orders => q.outline.orders = q'.outline.orders
  | .part .limit => q.outline.limit = q'.outline.limit
  | .part .offset => q.outline.offset = q'.outline.offset
  | .part .unions => q.unions = q'.unions
  | .part .unionOrders => q.outline.unionOrders = q'.outline.unionOrders
  | .part .unionLimit => q.outline.unionLimit = q'.outline.unionLimit
  | .part .unionOffset => q.outline.unionOffset = q'.outline.unionOffset

namespace Component

variable {q q' q'' : Query} {k : Component}

theorem Agree.refl (q : Query) (k : Component) : k.Agree q q := by
  cases k with
  | wheres => rfl
  | part part => cases part <;> rfl

theorem Agree.symm (h : k.Agree q q') : k.Agree q' q := by
  cases k with
  | wheres => exact Eq.symm h
  | part part => cases part <;> exact Eq.symm h

theorem Agree.trans (h : k.Agree q q') (h' : k.Agree q' q'') : k.Agree q q'' := by
  cases k with
  | wheres => exact Eq.trans h h'
  | part part => cases part <;> exact Eq.trans h h'

/-- The query with one part as in a query that nothing was built of. -/
def without (p : Part) (q : Query) : Query :=
  match p with
  | .table => q.updateOutline ({ · with table := .null })
  | .columns => q.updateOutline ({ · with columns := none })
  | .distinct => q.updateOutline ({ · with distinct := false })
  | .aggregate => q.updateOutline ({ · with aggregate := none })
  | .joins => { q with joins := [] }
  | .groups => q.updateOutline ({ · with groups := [] })
  | .havings => { q with havings := [] }
  | .orders => q.updateOutline ({ · with orders := [] })
  | .limit => q.updateOutline ({ · with limit := none })
  | .offset => q.updateOutline ({ · with offset := none })
  | .unions => { q with unions := [] }
  | .unionOrders => q.updateOutline ({ · with unionOrders := [] })
  | .unionLimit => q.updateOutline ({ · with unionLimit := none })
  | .unionOffset => q.updateOutline ({ · with unionOffset := none })

theorem agree_without {p : Part} (hk : k ≠ .part p) (q : Query) : k.Agree (without p q) q := by
  cases k with
  | wheres => cases p <;> rfl
  | part part => cases p <;> cases part <;> first | rfl | exact absurd rfl hk

/-- Queries that are the same but for one part agree in all other components. -/
theorem agree_of_without {p : Part} (hk : k ≠ .part p) (h : without p q = without p q') :
    k.Agree q q' :=
  (agree_without hk q).symm.trans (h ▸ agree_without hk q')

/-- Queries that read the same in all components are the same as far as they can be read. -/
theorem visible_eq_of_agree (h : ∀ k : Component, k.Agree q q') : q.visible = q'.visible := by
  obtain ⟨⟨table, columns, distinct, aggregate, groups, orders, limit, offset, unionOrders,
    unionLimit, unionOffset⟩, joins, conditions, havings, unions⟩ := q
  obtain ⟨⟨table', columns', distinct', aggregate', groups', orders', limit', offset', unionOrders',
    unionLimit', unionOffset'⟩, joins', conditions', havings', unions'⟩ := q'
  obtain rfl : table = table' := h (.part .table)
  obtain rfl : columns = columns' := h (.part .columns)
  obtain rfl : distinct = distinct' := h (.part .distinct)
  obtain rfl : aggregate = aggregate' := h (.part .aggregate)
  obtain rfl : groups = groups' := h (.part .groups)
  obtain rfl : orders = orders' := h (.part .orders)
  obtain rfl : limit = limit' := h (.part .limit)
  obtain rfl : offset = offset' := h (.part .offset)
  obtain rfl : unionOrders = unionOrders' := h (.part .unionOrders)
  obtain rfl : unionLimit = unionLimit' := h (.part .unionLimit)
  obtain rfl : unionOffset = unionOffset' := h (.part .unionOffset)
  obtain rfl : joins = joins' := h (.part .joins)
  obtain rfl : havings = havings' := h (.part .havings)
  obtain rfl : unions = unions' := h (.part .unions)
  exact congrArg (Query.mk _ joins · havings unions) (h .wheres)

/-- What a group shows of a query are four of its components. -/
theorem visible_query_iff : (Group.query q).visible = (Group.query q').visible
    ↔ (Component.part .joins).Agree q q' ∧ Component.wheres.Agree q q'
      ∧ (Component.part .havings).Agree q q' ∧ (Component.part .unions).Agree q q' := by
  cases q
  cases q'
  simp only [Group.visible, Group.query.injEq, Query.mk.injEq, true_and, Agree]

end Component

/-! ## Confined changes -/

/-- A change that works on each component by itself and leaves alone all but the given ones. Whether
there are unions may decide which of two components it works on. -/
structure Confined (touched : List Component) (change : Query → Outcome Query) : Prop where
  fault : ∀ q q' : Query, (change q).fault = (change q').fault
  apart : ∀ (q q' : Query) (k : Component), q.unions.isEmpty = q'.unions.isEmpty → k.Agree q q' →
    k.Agree (change q).state (change q').state
  frame : ∀ (q : Query) (k : Component), k ∉ touched → k.Agree (change q).state q

namespace Confined

variable {touched touched' : List Component} {change change' : Query → Outcome Query}

theorem failed (fault : Fault) : Confined touched fun q => .failed q fault where
  fault _ _ := rfl
  apart _ _ _ _ h := h
  frame q k _ := .refl q k

theorem done : Confined touched Outcome.done where
  fault _ _ := rfl
  apart _ _ _ _ h := h
  frame q k _ := .refl q k

/-- What is worked out beforehand does not depend on the query. -/
theorem ofResult {α : Type} (e : Except Fault α) {f : α → Query → Query}
    (h : ∀ a, Confined touched fun q => .done (f a q)) :
    Confined touched fun q => .ofResult q (e.map (f · q)) := by
  cases e with
  | error fault => exact failed fault
  | ok a => exact h a

theorem mono (h : Confined touched change) (hsub : touched ⊆ touched') :
    Confined touched' change where
  fault := h.fault
  apart := h.apart
  frame q k hk := h.frame q k fun hmem => hk (hsub hmem)

theorem isEmpty_unions (h : Confined touched change) (hunions : .part .unions ∉ touched)
    (q : Query) : (change q).state.unions.isEmpty = q.unions.isEmpty :=
  congrArg List.isEmpty (h.frame q (.part .unions) hunions)

theorem andThen (h : Confined touched change) (h' : Confined touched change')
    (hunions : .part .unions ∉ touched) :
    Confined touched fun q => (change q).andThen change' := by
  constructor
  · intro q q'
    have hfault := h.fault q q'
    unfold Outcome.andThen
    rw [hfault]
    split
    · exact h'.fault _ _
    · exact hfault
  · intro q q' k hu hk
    have hfault := h.fault q q'
    have hfirst := h.apart q q' k hu hk
    unfold Outcome.andThen
    rw [hfault]
    split
    · refine h'.apart _ _ k ?_ hfirst
      rw [h.isEmpty_unions hunions, h.isEmpty_unions hunions]
      exact hu
    · exact hfirst
  · intro q k hk
    unfold Outcome.andThen
    split
    · exact (h'.frame _ k hk).trans (h.frame q k hk)
    · exact h.frame q k hk

/-- Changes of different components can be made in either order. -/
theorem comm (h : Confined touched change) (h' : Confined touched' change')
    (hapart : ∀ k ∈ touched, k ∉ touched') (hunions : .part .unions ∉ touched)
    (hunions' : .part .unions ∉ touched') (q : Query) (k : Component) :
    k.Agree (change' (change q).state).state (change (change' q).state).state := by
  by_cases hk : k ∈ touched
  · have hother := h'.frame (change q).state k (hapart k hk)
    exact hother.trans (h.apart _ _ k (h'.isEmpty_unions hunions' q).symm
      (h'.frame q k (hapart k hk)).symm)
  · have hother := h.frame (change' q).state k hk
    exact (h'.apart _ _ k (h.isEmpty_unions hunions q) (h.frame q k hk)).trans hother.symm

end Confined

end QueryClient
