import QueryClient.Connection.Desk
import QueryClient.Proofs.Query.Clone

/-!
# Queries with all that stands in them

With all that stands in it put in, a query reads as before, and so it does when its flat parts are
changed: what is added to the others later no longer shows in it.
-/

namespace QueryClient.Workspace

variable {w : Workspace}

theorem within_expansion (w : Workspace) : w.expansion.Within (· = w.queries.length) :=
  Query.within_resolve (fun _ => by simp only [Source.Within]) _

theorem updateOutline_self (q : Query) : q.updateOutline (fun o => o) = q := by
  cases q
  rfl

theorem resolve_updateOutline (find : Nat → Source) (f : Outline → Outline) (q : Query) :
    (q.updateOutline f).resolve find = (q.resolve find).updateOutline f := by
  cases q
  simp only [Query.updateOutline, Query.resolve]

theorem within_updateOutline {p : Nat → Prop} {f : Outline → Outline} {q : Query}
    (h : q.Within p) : (q.updateOutline f).Within p := by
  cases q
  simpa only [Query.updateOutline, Query.Within] using h

/-- An expansion whose flat parts were changed, with what stands in it put in, is the changed query
with the expansion behind its depth. -/
theorem source_expansion (f : Outline → Outline) (depth : Nat) :
    source (w.queries ++ [w.expansion.updateOutline f]) (depth + 1) w.queries.length
      = (Source.own ((w.snapshot w.query).updateOutline f)).resolve
          fun _ => source (w.queries ++ [w.expansion.updateOutline f]) depth w.queries.length := by
  have hexpansion : (w.queries ++ [w.expansion.updateOutline f])[w.queries.length]?
      = some (w.expansion.updateOutline f) := List.getElem?_concat_length
  generalize w.queries ++ [w.expansion.updateOutline f] = queries at hexpansion ⊢
  rw [source_succ hexpansion]
  simp only [Source.resolve, resolve_updateOutline, expansion, Query.resolve_resolve]

/-- Any depth shows of the expansion what can be read of the query, also when both are changed
alike. -/
theorem read_expansion {α : Type} (r : Reading α) (hw : w.Sound) (f : Outline → Outline)
    (depth : Nat) :
    r.read (source (w.queries ++ [w.expansion.updateOutline f]) (depth + 1) w.queries.length)
      = r.read (.own ((w.snapshot w.query).updateOutline f)) := by
  have hwithin : (Source.own (w.query.updateOutline f)).Within (· < w.queries.length) := by
    rw [Source.Within]
    exact within_updateOutline (hw.within _ (List.mem_of_getElem? hw.query))
  have hquery : Source.own ((w.snapshot w.query).updateOutline f)
      = (Source.own (w.query.updateOutline f)).resolve w.find := by
    rw [Source.resolve, resolve_updateOutline, snapshot]
  by_cases hend : r.read (.own ((w.snapshot w.query).updateOutline f)) = .error .endless
  · -- Nothing can be read of a query without an end, and so nothing of its expansion at any depth.
    have hexpansion (d : Nat) :
        r.read (source (w.queries ++ [w.expansion.updateOutline f]) d w.queries.length)
          = .error .endless := by
      induction d with
      | zero => exact read_source_zero r _
      | succ d ih =>
          have hbelow := r.below (fun id hid => read_resolve_below r hw.closed (fun _ => ih)
            w.queries.length id hid) _ hwithin
          rw [← Source.resolve_resolve, ← find, ← hquery, ← source_expansion, hend] at hbelow
          exact hbelow.elim (·) (·)
    rw [hend, hexpansion]
  · rw [source_expansion, hquery, Source.resolve_resolve]
    rw [hquery] at hend
    refine (Below.eq_of_ne ?_ hend).symm
    exact r.below (fun id hid => read_source_below_resolve r hw.closed _ _ id hid) _ hwithin

/-- The workspace with a changed expansion of the current query, which is the current one then. -/
def onExpansion (w : Workspace) (f : Outline → Outline) : Workspace :=
  { w with queries := w.queries ++ [w.expansion.updateOutline f], current := w.queries.length }

/-- A changed expansion reads as the changed query does. -/
theorem read_onExpansion {α : Type} (r : Reading α) (hw : w.Sound) (f : Outline → Outline) :
    r.read (.own ((w.onExpansion f).snapshot (w.onExpansion f).query))
      = r.read (.own ((w.snapshot w.query).updateOutline f)) := by
  have hid : (w.onExpansion f).current < (w.onExpansion f).queries.length := by simp [onExpansion]
  have hsource := source_snapshot hid
  rw [queryOf] at hsource
  rw [query, ← hsource]
  exact read_expansion r hw f _

theorem sql_onExpansion (hw : w.Sound) (f : Outline → Outline) :
    (w.onExpansion f).sql = w.grammar.query ((w.snapshot w.query).updateOutline f) := by
  have hread := read_onExpansion w.grammar.reading hw f
  simp only [Grammar.reading, Grammar.source] at hread
  exact hread

theorem bindings_onExpansion (hw : w.Sound) (f : Outline → Outline) :
    (w.onExpansion f).bindings = ((w.snapshot w.query).updateOutline f).bindings := by
  have hread := read_onExpansion bindingsReading hw f
  simp only [bindingsReading, Source.bindings] at hread
  exact hread

end QueryClient.Workspace
