import QueryClient.Proofs.Query.Clone
import QueryClient.Proofs.Query.ObjectSteps

/-!
# Builders are independent of their copies

Whatever is built, builders have no list in common, and their objects amount to the queries that the
same steps make of queries. So a copy reads as the builder does, and from then on neither shows in
the other.
-/

namespace QueryClient.Builders

open Workspace (Step ReadAlike)

variable {b b' : Builders} {allowed : Nat → Prop}

/-! ## Steps -/

/-- The objects are apart, and builders make groups and inner queries for themselves. -/
structure Valid (b : Builders) : Prop where
  owned : b.heap.Owned
  named : ∀ e ∈ b.names, b.heap.maker? e.2 = some e.2
  current : b.heap.maker? b.current = some b.current

theorem valid_start (grammar : Grammar) : Valid { grammar } where
  owned := by
    refine Heap.Owned.addModel ⟨nofun, nofun, nofun⟩ nofun
  named := by simp [Heap.addModel, Heap.maker?]
  current := rfl

/-- What a clause asks or leaves is what it asks of the query or leaves of it. -/
theorem Valid.run (h : b.Valid) (clause : Clause) :
    (b.run clause).1.Valid ∧ (b.run clause).1.view = (b.view.run clause).1
      ∧ (b.run clause).2 = (b.view.run clause).2 := by
  obtain ⟨m, hm, hmaker⟩ := Option.map_eq_some_iff.mp h.current
  rw [Builders.run, Workspace.run]
  cases hask : b.view.ask clause with
  | some answer => cases answer <;> exact ⟨h, rfl, rfl⟩
  | none =>
      have hquery : b.view.query = b.heap.query m := by
        rw [Workspace.query, view, Heap.getElem?_queries, hm, Option.map_some, Option.getD_some]
      have hhost : b.heap.host m = (b.heap.query m).host := by
        rw [Heap.host, hmaker, hm]
        rfl
      have hview : b.view.grammar = b.grammar := rfl
      simp only [hm, hquery, hhost, hview, Clause.onHosted_host]
      generalize hresult : clause.onQuery b.grammar b.view.find (b.heap.query m) = outcome
      obtain ⟨howned, hqueries⟩ := h.owned.update (q := outcome.state) hm
        (if outcome.fault.isNone then clause.verb.renews? else none) fun hrenewed => by
          rw [← hresult]
          refine Clause.joins_kept fun hjoins hfault => hrenewed ?_
          rw [← hresult, hfault, Option.isNone_none, if_pos rfl, hjoins]
      have hmakers := Heap.maker?_update (q := outcome.state) hm
        (if outcome.fault.isNone then clause.verb.renews? else none)
      refine ⟨⟨howned, fun e he => ?_, ?_⟩, ?_, trivial⟩
      · rw [hmakers]
        exact h.named e he
      · rw [hmakers]
        exact h.current
      · simp only [view, hqueries]

theorem ne_length_of_maker? {h : Heap} {i maker : Nat} (hi : h.maker? i = some maker) :
    i ≠ h.models.length := by
  obtain ⟨m, hm, -⟩ := Option.map_eq_some_iff.mp hi
  exact Nat.ne_of_lt (List.getElem?_eq_some_iff.mp hm).1

theorem Valid.step (h : b.Valid) (s : Step) :
    (b.step s).1.Valid ∧ (b.step s).1.view = (b.view.step s).1
      ∧ (b.step s).2 = (b.view.step s).2 := by
  have hlength : b.heap.models.length = b.view.queries.length := b.heap.length_queries.symm
  have hcurrent : b.current < b.heap.queries.length := by
    obtain ⟨m, hm, -⟩ := Option.map_eq_some_iff.mp h.current
    rw [Heap.length_queries]
    exact (List.getElem?_eq_some_iff.mp hm).1
  cases s with
  | clause clause => exact h.run clause
  | clone name =>
      obtain ⟨hcopy, hcopied⟩ := h.owned.copy b.current
      obtain ⟨howned, hqueries⟩ := hcopy.adopt b.heap.models.length
      have hmakes {i : Nat} (hi : b.heap.maker? i = some i) :
          ((b.heap.copy b.current).adopt b.heap.models.length).maker? i = some i := by
        rw [Heap.maker?_adopt_of_ne (ne_length_of_maker? hi).symm]
        exact Heap.maker?_of_grown (Heap.models_prefix_copy _ _) hi
      refine ⟨⟨howned, fun e he => ?_, hmakes h.current⟩, ?_, rfl⟩
      · rcases List.mem_cons.mp he with rfl | hold
        · refine Heap.maker?_adopt_self ?_
          have hgrown := congrArg List.length hcopied
          have hpos := Workspace.length_copies_pos hcurrent
          rw [List.length_append, Heap.length_queries, Heap.length_queries] at hgrown
          omega
        · exact hmakes (h.named e hold)
      · rw [Builders.step, view, hqueries, hcopied, hlength]
        rfl
  | fresh name =>
      have hmakes {i maker : Nat} (hi : b.heap.maker? i = some maker) :
          (b.heap.addModel {} (fun _ => []) b.heap.models.length).maker? i = some maker :=
        Heap.maker?_of_grown (List.prefix_append _ _) hi
      refine ⟨⟨h.owned.addModel nofun, fun e he => ?_, hmakes h.current⟩, ?_, rfl⟩
      · rcases List.mem_cons.mp he with rfl | hold
        · simp only [Builders.step, Heap.maker?, Heap.addModel, List.getElem?_concat_length,
            Option.map_some]
        · exact hmakes (h.named e hold)
      · have hempty : (b.heap.addModel {} (fun _ => []) b.heap.models.length).query
            { outline := {}, lists := (b.heap.lists.length + ·.index)
              maker := b.heap.models.length } = {} :=
          Heap.query_eq [] rfl (fun slot => by
            rw [Heap.contents_addModel]
            cases slot <;> rfl) rfl
        rw [Builders.step, view, h.owned.queries_addModel, hempty, hlength]
        rfl
  | use name =>
      rw [Builders.step, Workspace.step, Workspace.idOf?]
      have hnames : b.view.names = b.names := rfl
      rw [hnames]
      cases hid : b.names.lookup name with
      | none => exact ⟨h, rfl, rfl⟩
      | some id =>
          obtain ⟨l₁, l₂, hmem, -⟩ := List.lookup_eq_some_iff.mp hid
          refine ⟨⟨h.owned, h.named, h.named (name, id) ?_⟩, rfl, rfl⟩
          rw [hmem]
          exact List.mem_append_right l₁ List.mem_cons_self
  | disable kind => exact ⟨⟨h.owned, h.named, h.current⟩, rfl, rfl⟩

/-! ## Runs -/

/-- Builders that can come about. -/
inductive Reachable : Builders → Prop where
  | start (grammar : Grammar) : Reachable { grammar }
  | step {b : Builders} (s : Step) (hb : Reachable b) (hs : s.Fits b.view) :
      Reachable (b.step s).1

/-- Builders are used on, with clauses only on those with the property. -/
inductive Reaches (allowed : Nat → Prop) (b : Builders) : Builders → Prop where
  | refl : Reaches allowed b b
  | step {b' : Builders} (s : Step) (hb : Reaches allowed b b')
      (hs : ∀ clause, s = .clause clause → allowed b'.current) : Reaches allowed b (b'.step s).1

/-- The objects of builders amount to queries that can be built. -/
theorem Reachable.valid (h : b.Reachable) : b.Valid ∧ b.view.Reachable := by
  induction h with
  | start grammar => exact ⟨valid_start grammar, .start grammar⟩
  | step s hb hs ih =>
      obtain ⟨hvalid, hview, -⟩ := ih.1.step s
      exact ⟨hvalid, hview ▸ ih.2.step s hs⟩

theorem Reaches.view (h : b.Reaches allowed b') (hb : b.Valid) :
    b'.Valid ∧ b.view.Reaches allowed b'.view := by
  induction h with
  | refl => exact ⟨hb, .refl⟩
  | step s hreaches hs ih =>
      obtain ⟨hvalid, hview, -⟩ := ih.1.step s
      exact ⟨hvalid, hview ▸ ih.2.step s hs⟩

/-- The copy of a builder reads as the builder did, and from then on the two are independent: calls
of the copy and of what is made after it leave all older builders as they read, and calls of
anything but the copy leave it as it reads, whatever queries and builders the two have in common. -/
theorem clone_independent (hb : b.Reachable) (name : String) :
    let b₁ := (b.step (.clone name)).1
    let copy := b.heap.models.length
    b₁.names.lookup name = some copy
      ∧ ReadAlike b₁.view copy b.view b.current
      ∧ (∀ b₂, b₁.Reaches (copy ≤ ·) b₂ → ∀ id < copy, ReadAlike b₂.view id b.view id)
      ∧ ∀ b₂, b₁.Reaches (· ≠ copy) b₂ → ReadAlike b₂.view copy b.view b.current := by
  intro b₁ copy
  obtain ⟨hvalid, hreachable⟩ := hb.valid
  obtain ⟨hvalid₁, hview, -⟩ := hvalid.step (.clone name)
  have hcopy : b.view.queries.length = copy := b.heap.length_queries
  obtain ⟨-, hread, holder, hkept⟩ := Workspace.clone_apart hreachable.sound name
  rw [← hview, hcopy] at hread holder hkept
  refine ⟨List.lookup_cons_self, hread, fun b₂ hreaches => ?_, fun b₂ hreaches => ?_⟩
  · exact holder b₂.view (hreaches.view hvalid₁).2
  · exact hkept b₂.view (hreaches.view hvalid₁).2

/-- A builder on `t` that refers to another one on `u` in a condition and in a union. -/
def sharing : Builders :=
  [.fresh "inner",
    .clause ⟨.fromTable, [.value (.text "t")], .anything⟩,
    .clause ⟨.filter .among,
      [.value (.text "id"), .shared 1, .value (.text "and"), .value (.bool false)], .anything⟩,
    .clause ⟨.union, [.shared 1, .value (.bool true)], .queries⟩,
    .use "inner",
    .clause ⟨.fromTable, [.value (.text "u")], .anything⟩,
    .use "main"].foldl (fun b s => (b.step s).1) {}

/-- A condition that is added to the other builder shows in the first one and not in its copy. -/
theorem clone_independent_sharing :
    let b₁ := (sharing.step (.clone "copy")).1
    let b₂ := ((b₁.step (.use "inner")).1.step (.clause ⟨.filter .add,
      [.value (.text "a"), .value (.text "="), .value (.int 1), .value (.text "and")],
      .anything⟩)).1
    sharing.Reachable ∧ ReadAlike b₂.view 2 sharing.view 0
      ∧ (b₂.step (.use "main")).1.view.sql = .ok
        ("(select * from `t` where `id` in (select * from `u` where `a` = ?))"
          ++ " union all (select * from `u` where `a` = ?)")
      ∧ (b₂.step (.use "copy")).1.view.sql = .ok
        "(select * from `t` where `id` in (select * from `u`)) union all (select * from `u`)" := by
  intro b₁ b₂
  have hreachable : sharing.Reachable := by
    refine .step _ (.step _ (.step _ (.step _ (.step _ (.step _ (.step _ (.start {}) ?_) ?_) ?_)
      ?_) ?_) ?_) ?_
    · trivial
    · exact ⟨trivial, trivial⟩
    · exact ⟨trivial, Nat.one_lt_two, trivial, trivial, trivial⟩
    · exact ⟨Nat.one_lt_two, trivial, trivial⟩
    · trivial
    · exact ⟨trivial, trivial⟩
    · trivial
  obtain ⟨-, -, -, hcopy⟩ := clone_independent hreachable "copy"
  refine ⟨hreachable, hcopy b₂ (.step _ (.step _ .refl ?_) ?_), by decide +kernel,
    by decide +kernel⟩
  · exact fun _ h => nomatch h
  · intro _ _
    decide

end QueryClient.Builders
