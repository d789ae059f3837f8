import QueryClient.Proofs.Query.Copies
import QueryClient.Proofs.Query.KeptReferences

/-!
# Copies are independent

A copy of a query reads as the query does when it is taken, wherever the query refers to others.
After that no change of the copy shows in an older query, and no change of another query shows in
the copy.
-/

namespace QueryClient.Workspace

/-! ## Steps -/

/-- The step refers to queries that there are. -/
def Step.Fits (w : Workspace) : Step → Prop
  | .clause c => c.Within (· < w.queries.length)
  | .clone _ | .fresh _ | .use _ | .disable _ => True

/-- Workspaces that can be built. -/
inductive Reachable : Workspace → Prop where
  | start (grammar : Grammar) : Reachable { grammar }
  | step {w : Workspace} (s : Step) (hw : Reachable w) (hs : s.Fits w) : Reachable (w.step s).1

/-- A workspace is built on, with clauses only on queries with the property. -/
inductive Reaches (allowed : Nat → Prop) (w : Workspace) : Workspace → Prop where
  | refl : Reaches allowed w w
  | step {w' : Workspace} (s : Step) (hw : Reaches allowed w w')
      (hs : ∀ clause, s = .clause clause → allowed w'.current) : Reaches allowed w (w'.step s).1

variable {w w' : Workspace} {allowed : Nat → Prop} {id : Nat}

/-- A clause changes the current query or nothing. -/
theorem run_eq (w : Workspace) (clause : Clause) :
    (w.run clause).1 = w
      ∨ (w.run clause).1 = { w with
          queries := w.queries.set w.current (clause.onQuery w.grammar w.find w.query).state } := by
  unfold run
  cases hask : w.ask clause with
  | none => exact .inr rfl
  | some answer =>
      cases answer with
      | error fault => exact .inl rfl
      | ok v => exact .inl rfl

theorem getElem?_step {s : Step} (hid : id < w.queries.length)
    (hs : ∀ clause, s = .clause clause → w.current ≠ id) :
    (w.step s).1.queries[id]? = w.queries[id]? := by
  cases s with
  | clause clause =>
      rcases w.run_eq clause with h | h
      · rw [step, h]
      · rw [step, h]
        exact List.getElem?_set_ne (hs clause rfl)
  | clone name | fresh name => exact List.getElem?_append_left hid
  | use name =>
      rw [step]
      split <;> rfl
  | disable kind => rfl

theorem length_le_step (w : Workspace) (s : Step) :
    w.queries.length ≤ (w.step s).1.queries.length := by
  cases s with
  | clause clause =>
      rcases w.run_eq clause with h | h
      · rw [step, h]
      · rw [step, h]
        exact List.length_set.ge
  | clone name | fresh name =>
      simp only [step, add, List.length_append]
      exact Nat.le_add_right _ _
  | use name =>
      rw [step]
      split <;> exact Nat.le_refl _
  | disable kind => exact Nat.le_refl _

/-- What gets a name is the next query. -/
theorem names_step {s : Step} {e : String × Nat} (he : e ∈ (w.step s).1.names) :
    e ∈ w.names ∨ e.2 = w.queries.length := by
  cases s with
  | clause clause =>
      rw [step] at he
      rcases w.run_eq clause with h | h
      · exact .inl (h ▸ he)
      · rw [h] at he
        exact .inl he
  | clone name | fresh name =>
      rcases List.mem_cons.mp he with rfl | hold
      · exact .inr rfl
      · exact .inl hold
  | use name =>
      rw [step] at he
      split at he <;> exact .inl he
  | disable kind => exact .inl he

theorem mem_names_of_idOf? {name : String} {id : Nat} (h : w.idOf? name = some id) :
    (name, id) ∈ w.names := by
  obtain ⟨l₁, l₂, hnames, -⟩ := List.lookup_eq_some_iff.mp h
  rw [hnames]
  exact List.mem_append_right l₁ List.mem_cons_self

/-- One goes on with the same query or with one that has a name. -/
theorem current_step (w : Workspace) (s : Step) :
    (w.step s).1.current = w.current ∨ ∃ e ∈ w.names, e.2 = (w.step s).1.current := by
  cases s with
  | clause clause =>
      rw [step]
      rcases w.run_eq clause with h | h <;> exact .inl (by rw [h])
  | clone name | fresh name | disable kind => exact .inl rfl
  | use name =>
      rw [step]
      cases hid : w.idOf? name with
      | none => exact .inl rfl
      | some id => exact .inr ⟨(name, id), mem_names_of_idOf? hid, rfl⟩

theorem Reaches.length_le (h : Reaches allowed w w') : w.queries.length ≤ w'.queries.length := by
  induction h with
  | refl => exact Nat.le_refl _
  | step s hw hs ih => exact ih.trans (length_le_step _ s)

/-- Queries that no clause runs on stay as they are. -/
theorem Reaches.getElem? (h : Reaches allowed w w') (hid : id < w.queries.length)
    (hnot : ¬ allowed id) : w'.queries[id]? = w.queries[id]? := by
  induction h with
  | refl => rfl
  | step s hw hs ih =>
      rw [← ih]
      apply getElem?_step (hid.trans_le hw.length_le)
      intro clause hclause hcurrent
      exact hnot (hcurrent ▸ hs clause hclause)

/-! ## References -/

/-- Everything that is referred to is there. -/
structure Sound (w : Workspace) : Prop where
  within : ∀ q ∈ w.queries, q.Within (· < w.queries.length)
  names : ∀ e ∈ w.names, e.2 < w.queries.length
  current : w.current < w.queries.length

theorem sound_start (grammar : Grammar) : Sound { grammar } where
  within := by simpa only [List.forall_mem_singleton] using Query.within_empty
  names := by simp
  current := Nat.one_pos

namespace Sound

theorem query (h : w.Sound) : w.queries[w.current]? = some w.query := by
  rw [Workspace.query, List.getElem?_eq_getElem h.current, Option.getD_some]

theorem closed (h : w.Sound) : Closed w.queries (· < w.queries.length) :=
  fun _ _ q hq => h.within q (List.mem_of_getElem? hq)

theorem add (h : w.Sound) (name : String) {added : List Query} (hadded : added ≠ [])
    (hwithin : ∀ q ∈ added, q.Within (· < w.queries.length + added.length)) :
    (w.add name added).Sound := by
  have hlength : (w.add name added).queries.length = w.queries.length + added.length :=
    List.length_append
  have hpos := List.length_pos_of_ne_nil hadded
  constructor
  · intro q hq
    rw [hlength]
    rcases List.mem_append.mp hq with hold | hnew
    · exact (h.within q hold).mono (fun id hid => Nat.lt_add_right _ hid) q
    · exact hwithin q hnew
  · intro e he
    rw [hlength]
    rcases List.mem_cons.mp he with rfl | hold
    · exact Nat.lt_add_of_pos_right hpos
    · exact Nat.lt_add_right _ (h.names e hold)
  · rw [hlength]
    exact Nat.lt_add_right _ h.current

theorem step {s : Step} (h : w.Sound) (hs : s.Fits w) : (w.step s).1.Sound := by
  cases s with
  | clause clause =>
      rcases w.run_eq clause with heq | heq
      · rw [Workspace.step, heq]
        exact h
      · rw [Workspace.step, heq]
        have hstate : (clause.onQuery w.grammar w.find w.query).state.Within
            (· < w.queries.length) :=
          clause.onQuery_within hs w.query (h.within _ (List.mem_of_getElem? h.query))
        constructor
        · intro q hq
          rw [List.length_set]
          rcases List.mem_or_eq_of_mem_set hq with hold | rfl
          · exact h.within q hold
          · exact hstate
        · rw [List.length_set]
          exact h.names
        · rw [List.length_set]
          exact h.current
  | clone name =>
      refine h.add name (List.ne_nil_of_length_pos (length_copies_pos h.current)) fun q hq => ?_
      exact (within_copies h.closed hq).mono (fun _ hi => hi.2) q
  | fresh name =>
      exact h.add name (List.cons_ne_nil _ _) (List.forall_mem_singleton.mpr Query.within_empty)
  | use name =>
      rw [Workspace.step]
      cases hid : w.idOf? name with
      | none => exact h
      | some id => exact ⟨h.within, h.names, h.names (name, id) (mem_names_of_idOf? hid)⟩
  | disable kind => exact ⟨h.within, h.names, h.current⟩

end Sound

theorem Reachable.sound (h : Reachable w) : w.Sound := by
  induction h with
  | start grammar => exact sound_start grammar
  | step s hw hs ih => exact ih.step hs

/-! ## What is read of queries -/

/-- The query of a number. -/
def queryOf (w : Workspace) (id : Nat) : Query :=
  (w.queries[id]?).getD {}

/-- A query of one workspace has the text and the values of a query of another one. -/
structure ReadAlike (w : Workspace) (id : Nat) (w' : Workspace) (id' : Nat) : Prop where
  sql : ∀ g : Grammar,
    g.query (w.snapshot (w.queryOf id)) = g.query (w'.snapshot (w'.queryOf id'))
  bindings :
    (w.snapshot (w.queryOf id)).bindings = (w'.snapshot (w'.queryOf id')).bindings

theorem source_snapshot (hid : id < w.queries.length) :
    source w.queries (w.queries.length + 1) id = .own (w.snapshot (w.queryOf id)) := by
  have hq : w.queries[id]? = some (w.queryOf id) := by
    rw [queryOf, List.getElem?_eq_getElem hid, Option.getD_some]
  rw [source_succ hq, Source.resolve]
  rfl

theorem readAlike_of_readings {id' : Nat} (hid : id < w.queries.length)
    (hid' : id' < w'.queries.length)
    (h : ∀ {α : Type} (r : Reading α), r.read (source w.queries (w.queries.length + 1) id)
      = r.read (source w'.queries (w'.queries.length + 1) id')) : ReadAlike w id w' id' := by
  rw [source_snapshot hid, source_snapshot hid'] at h
  constructor
  · intro g
    simpa only [Grammar.reading, Grammar.source] using h g.reading
  · simpa only [bindingsReading, Source.bindings] using h bindingsReading

/-! ## Copies -/

/-- Older queries read alike as long as they stay as they are: they depend on older ones alone. -/
theorem readAlike_of_older (hw : w.Sound) (hle : w.queries.length ≤ w'.queries.length)
    (h : ∀ id < w.queries.length, w'.queries[id]? = w.queries[id]?) (hid : id < w.queries.length) :
    ReadAlike w' id w id := by
  refine readAlike_of_readings (by omega) hid fun r => ?_
  rw [read_source_congr r hw.closed h _ id hid, read_source_stable r hw.closed (by omega) id hid,
    read_source_stable r hw.closed (Nat.le_succ _) id hid]

section Copies

variable {w₁ w₂ : Workspace} {name : String} (hw : w.Sound)
  (h : (w.step (.clone name)).1.Reaches (· ≠ w.queries.length) w₂)

include hw h

/-- Of the copies only the first can be named, so as long as no clause runs on it they stay as they
are. -/
theorem copies_kept :
    (∀ e ∈ w₂.names, IsCopy w.queries w.current e.2 → e.2 = w.queries.length)
      ∧ (IsCopy w.queries w.current w₂.current → w₂.current = w.queries.length)
      ∧ ∀ i, IsCopy w.queries w.current i →
        w₂.queries[i]? = (w.queries ++ copies w.queries w.current)[i]? := by
  induction h with
  | refl =>
      refine ⟨fun e he hcopy => ?_, fun hcopy => ?_, fun i _ => rfl⟩
      · rcases List.mem_cons.mp he with rfl | hold
        · rfl
        · exact absurd (hw.names e hold) (Nat.not_lt.mpr hcopy.1)
      · exact absurd hw.current (Nat.not_lt.mpr hcopy.1)
  | @step w' s hreaches hs ih =>
      obtain ⟨hnames, hcurrent, hqueries⟩ := ih
      have hlength : (w.step (.clone name)).1.queries.length
          = w.queries.length + (copies w.queries w.current).length := List.length_append
      have hle := hlength ▸ hreaches.length_le
      have hkept (i : Nat) (hi : IsCopy w.queries w.current i) :
          (w'.step s).1.queries[i]? = (w.queries ++ copies w.queries w.current)[i]? := by
        rw [← hqueries i hi]
        refine getElem?_step (Nat.lt_of_lt_of_le hi.2 hle) fun clause hclause heq => ?_
        exact hs clause hclause (hcurrent (heq ▸ hi))
      refine ⟨fun e he hcopy => ?_, fun hcopy => ?_, hkept⟩
      · rcases names_step he with hold | hnew
        · exact hnames e hold hcopy
        · exact absurd hcopy.2 (Nat.not_lt.mpr (hnew ▸ hle))
      · rcases current_step w' s with hsame | ⟨e, he, heq⟩
        · rw [hsame] at hcopy ⊢
          exact hcurrent hcopy
        · rw [← heq] at hcopy ⊢
          exact hnames e he hcopy

/-- The copy reads as the query did. -/
theorem readAlike_copy (hlength : w.queries.length < w₂.queries.length) :
    ReadAlike w₂ w.queries.length w w.current := by
  have hmem : w.current ∈ met w.queries w.current := by
    obtain ⟨rest, hmet⟩ := exists_met_eq hw.current
    rw [hmet]
    exact List.mem_cons_self
  have hcopy := isCopy_copyNumber hmem
  have hread {α : Type} (r : Reading α) (depth : Nat) :=
    read_source_copies hw.closed r depth w.current hmem
  simp only [copyNumber_self hw.current] at hcopy hread
  refine readAlike_of_readings hlength hw.current fun r => ?_
  rw [read_source_congr r (closed_copies hw.closed) (copies_kept hw h).2.2 _ _ hcopy,
    hread r, read_source_stable r hw.closed (by omega) _ hw.current,
    read_source_stable r hw.closed (Nat.le_succ _) _ hw.current]

end Copies

/-- A copy reads as the query did, and from then on the two are independent: clauses on the copy and
on what is made after it leave all older queries as they read, and clauses on anything but the copy
leave it as it reads. -/
theorem clone_apart (hw : w.Sound) (name : String) :
    let w₁ := (w.step (.clone name)).1
    w₁.idOf? name = some w.queries.length
      ∧ ReadAlike w₁ w.queries.length w w.current
      ∧ (∀ w₂, w₁.Reaches (w.queries.length ≤ ·) w₂ →
        ∀ id < w.queries.length, ReadAlike w₂ id w id)
      ∧ ∀ w₂, w₁.Reaches (· ≠ w.queries.length) w₂ →
        ReadAlike w₂ w.queries.length w w.current := by
  intro w₁
  have hlength : w₁.queries.length = w.queries.length + (copies w.queries w.current).length :=
    List.length_append
  have hpos := length_copies_pos hw.current
  have hcopy (w₂ : Workspace) (hreaches : w₁.Reaches (· ≠ w.queries.length) w₂) :
      ReadAlike w₂ w.queries.length w w.current := by
    have hle := hreaches.length_le
    exact readAlike_copy hw hreaches (by omega)
  refine ⟨List.lookup_cons_self, hcopy w₁ .refl, ?_, hcopy⟩
  intro w₂ hreaches id hid
  have hle := hreaches.length_le
  refine readAlike_of_older hw (by omega) (fun id' hid' => ?_) hid
  rw [hreaches.getElem? (by omega) (by omega)]
  exact List.getElem?_append_left hid'

/-- A query on `t` that refers to another one on `u` in a condition and in a union. -/
def sharing : Workspace :=
  [.fresh "inner",
    .clause ⟨.fromTable, [.value (.text "t")], .anything⟩,
    .clause ⟨.filter .among,
      [.value (.text "id"), .shared 1, .value (.text "and"), .value (.bool false)], .anything⟩,
    .clause ⟨.union, [.shared 1, .value (.bool true)], .queries⟩,
    .use "inner",
    .clause ⟨.fromTable, [.value (.text "u")], .anything⟩,
    .use "main"].foldl (fun w s => (w.step s).1) {}

end QueryClient.Workspace
