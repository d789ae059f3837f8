import Mathlib.Data.Finset.Card
import Mathlib.Logic.Relation
import QueryClient.Proofs.Query.Clone
import QueryClient.Proofs.Query.Ending

/-!
# Queries that reach themselves

Queries of a workspace refer to each other, and a query that is reached from itself can neither be
written nor give its values. A step closes such a circle exactly when it stores a query where it
can be reached from. As long as no step does, all queries can be put in to the end.
-/

namespace QueryClient

open Relation (ReflTransGen TransGen)

/-! ## References one by one -/

/-- The query refers to the shared query of the number. -/
def Query.Refers (q : Query) (id : Nat) : Prop :=
  ¬ q.Within (· ≠ id)

theorem Query.within_iff {q : Query} {p : Nat → Prop} : q.Within p ↔ ∀ id, q.Refers id → p id := by
  constructor
  · intro h id hid
    by_contra hp
    exact hid (h.mono (fun j hj (heq : j = id) => hp (heq ▸ hj)) q)
  · intro h
    have hall : q.Within fun id => ∀ excluded : {id // ¬ p id}, id ≠ excluded.1 :=
      Query.Within.all q fun excluded => by_contra fun hrefers => excluded.2 (h _ hrefers)
    exact hall.mono (fun id hid => by_contra fun hp => hid ⟨id, hp⟩ rfl) q

theorem Query.refers_of_refers_resolve {q : Query} {f : Nat → Nat} {id : Nat}
    (h : (q.resolve fun i => .shared (f i)).Refers id) : ∃ i, q.Refers i ∧ f i = id := by
  by_contra hnone
  refine h (Query.Within.resolve (p := q.Refers) (fun i hi => ?_) q ?_)
  · rw [Source.Within]
    exact fun heq => hnone ⟨i, hi, heq⟩
  · exact Query.within_iff.mpr fun _ hi => hi

/-! ## Relations that differ at one place -/

section Relations

variable {α : Type} {r s : α → α → Prop} {a b c : α}

/-- A path to a place does not depend on what leads away from there. -/
theorem reflTransGen_of_agree (hsame : ∀ a b, a ≠ c → r a b → s a b) (h : ReflTransGen r a c) :
    ReflTransGen s a c := by
  induction h using ReflTransGen.head_induction_on with
  | refl => exact .refl
  | @head a b hab _ ih =>
      by_cases ha : a = c
      · rw [ha]
      · exact .head (hsame a b ha hab) ih

/-- A path avoids what leads away from a place, or it passes there. -/
theorem transGen_or_of_agree (hsame : ∀ a b, a ≠ c → r a b → s a b) (h : TransGen r a b) :
    TransGen s a b ∨ ReflTransGen r a c ∧ TransGen r c b := by
  induction h with
  | @single b hab =>
      by_cases ha : a = c
      · exact .inr ⟨ha ▸ .refl, .single (ha ▸ hab)⟩
      · exact .inl (.single (hsame a b ha hab))
  | @tail b d hab hbd ih =>
      by_cases hb : b = c
      · exact .inr ⟨hb ▸ hab.to_reflTransGen, .single (hb ▸ hbd)⟩
      · rcases ih with h | ⟨ha, hc⟩
        · exact .inl (h.tail (hsame b d hb hbd))
        · exact .inr ⟨ha, hc.tail hbd⟩

end Relations

namespace Workspace

/-! ## Circles -/

/-- The query of one number refers to the query of another one. -/
def Uses (queries : List Query) (i j : Nat) : Prop :=
  ∃ q, queries[i]? = some q ∧ q.Refers j

/-- No query is reached from itself. -/
def Acyclic (queries : List Query) : Prop :=
  ∀ id, ¬ TransGen (Uses queries) id id

variable {w : Workspace} {queries : List Query} {q : Query} {id current : Nat}

theorem not_uses_of_within (hq : queries[id]? = some q) (h : q.Within fun _ => False) (j : Nat) :
    ¬ Uses queries id j := by
  rintro ⟨q', hq', hrefers⟩
  cases hq.symm.trans hq'
  exact Query.within_iff.mp h j hrefers

theorem not_reaches_of_within (hq : queries[id]? = some q) (h : q.Within fun _ => False) {j : Nat}
    (hne : id ≠ j) : ¬ ReflTransGen (Uses queries) id j := by
  intro hreach
  rcases hreach.cases_head with rfl | ⟨k, huses, -⟩
  · exact hne rfl
  · exact not_uses_of_within hq h k huses

/-- Queries that use each other as other ones do close no other circles. -/
theorem Acyclic.of_image {queries' : List Query} (h : Acyclic queries) (f : Nat → Nat)
    (hf : ∀ i j, Uses queries' i j → Uses queries (f i) (f j)) : Acyclic queries' :=
  fun id hcycle => h (f id) (TransGen.lift f hf id id hcycle)

theorem acyclic_append (h : Acyclic queries) (hq : q.Within fun _ => False) :
    Acyclic (queries ++ [q]) := by
  refine h.of_image id fun i j huses => ?_
  by_cases hi : i < queries.length
  · rwa [Uses, List.getElem?_append_left hi] at huses
  · have ⟨q', hq', _⟩ := huses
    obtain rfl : i = queries.length := by
      have hlt := (List.getElem?_eq_some_iff.mp hq').1
      rw [List.length_append, List.length_singleton] at hlt
      omega
    exact absurd huses (not_uses_of_within List.getElem?_concat_length hq j)

/-- What a number is the copy of; the numbers before the copies stand for themselves. -/
def copied (queries : List Query) (id i : Nat) : Nat :=
  if i < queries.length then i else ((met queries id)[i - queries.length]?).getD 0

/-- Copies use each other as the queries do. -/
theorem acyclic_copies (h : Acyclic queries) (hclosed : Closed queries (· < queries.length)) :
    Acyclic (queries ++ copies queries id) := by
  refine h.of_image (copied queries id) fun i j huses => ?_
  by_cases hi : i < queries.length
  · rw [Uses, List.getElem?_append_left hi] at huses
    obtain ⟨q, hq, hrefers⟩ := huses
    have hj := Query.within_iff.mp (hclosed i hi q hq) j hrefers
    rw [copied, copied, if_pos hi, if_pos hj]
    exact ⟨q, hq, hrefers⟩
  · obtain ⟨q', hq', hrefers⟩ := huses
    rw [List.getElem?_append_right (Nat.not_lt.mp hi)] at hq'
    obtain ⟨original, q, hmet, hq, hwithin, rfl⟩ := exists_of_getElem?_copies hclosed hq'
    obtain ⟨k, hk, rfl⟩ := Query.refers_of_refers_resolve hrefers
    have hcopy := Query.within_iff.mp hwithin k hk
    rw [copied, if_neg hi, hmet, Option.getD_some, copied, if_neg (Nat.not_lt.mpr
      (isCopy_copyNumber hcopy).1), copyNumber_of_mem hcopy, Nat.add_sub_cancel_left,
      List.getElem?_idxOf hcopy, Option.getD_some]
    exact ⟨q, hq, hk⟩

/-- With another query in one place there is a circle exactly when this query refers to one from
which its place can be reached. -/
theorem acyclic_set_iff (h : Acyclic queries) (hcurrent : current < queries.length) :
    Acyclic (queries.set current q)
      ↔ q.Within fun id => ¬ ReflTransGen (Uses queries) id current := by
  have helse (i j : Nat) (hi : i ≠ current) :
      Uses (queries.set current q) i j ↔ Uses queries i j := by
    rw [Uses, List.getElem?_set_ne hi.symm, Uses]
  have hhere (j : Nat) : Uses (queries.set current q) current j ↔ q.Refers j := by
    rw [Uses, List.getElem?_set_self hcurrent]
    exact ⟨fun ⟨_, hq, hj⟩ => Option.some.inj hq ▸ hj, fun hj => ⟨q, rfl, hj⟩⟩
  -- Only what leads away from the place is new, so a path that leads there is an old one.
  constructor
  · intro hnew
    rw [Query.within_iff]
    intro id hid hreach
    have hback := reflTransGen_of_agree (fun i j hi => (helse i j hi).mpr) hreach
    exact hnew current (.head' ((hhere id).mpr hid) hback)
  · intro hq id hcycle
    rcases transGen_or_of_agree (fun i j hi => (helse i j hi).mp) hcycle with hold | ⟨hto, hfrom⟩
    · exact h id hold
    · obtain ⟨j, hj, hback⟩ := TransGen.head'_iff.mp (hfrom.trans_left hto)
      have hreach := reflTransGen_of_agree (fun i j hi => (helse i j hi).mp) hback
      exact Query.within_iff.mp hq j ((hhere j).mp hj) hreach

/-! ## Queries put in to the end -/

open Classical in
/-- The queries that are reached from one. -/
noncomputable def reached (queries : List Query) (id : Nat) : Finset Nat :=
  (Finset.range queries.length).filter fun j => ReflTransGen (Uses queries) id j

theorem mem_reached {j : Nat} :
    j ∈ reached queries id ↔ j < queries.length ∧ ReflTransGen (Uses queries) id j := by
  classical
  rw [reached, Finset.mem_filter, Finset.mem_range]

theorem card_reached_le (queries : List Query) (id : Nat) :
    (reached queries id).card ≤ queries.length := by
  classical
  rw [reached]
  exact (Finset.card_filter_le _ _).trans (Finset.card_range _).le

/-- Without circles fewer queries are reached from a query than from one that refers to it. -/
theorem card_reached_lt (h : Acyclic queries) {i j : Nat} (hi : i < queries.length)
    (huses : Uses queries i j) : (reached queries j).card < (reached queries i).card := by
  refine Finset.card_lt_card ⟨fun k hk => ?_, fun hsub => ?_⟩
  · rw [mem_reached] at hk ⊢
    exact ⟨hk.1, .head huses hk.2⟩
  · have hback := mem_reached.mp (hsub (mem_reached.mpr ⟨hi, .refl⟩))
    exact h i (.head' huses hback.2)

/-- At a depth that is no less than the number of queries reached nothing is cut off. -/
theorem source_within_of_card (hclosed : Closed queries (· < queries.length))
    (h : Acyclic queries) (depth : Nat) :
    ∀ id < queries.length, (reached queries id).card ≤ depth →
      (source queries depth id).Within fun _ => False := by
  -- Every query that is referred to reaches fewer queries, and one level of depth is left for it.
  induction depth with
  | zero =>
      intro id hid hcard
      have hpos := Finset.card_pos.mpr ⟨id, mem_reached.mpr ⟨hid, .refl⟩⟩
      omega
  | succ depth ih =>
      intro id hid hcard
      have hq : queries[id]? = some queries[id] := List.getElem?_eq_getElem hid
      rw [source_succ hq]
      have hown : (Source.own queries[id]).Within queries[id].Refers := by
        rw [Source.Within, Query.within_iff]
        exact fun _ hrefers => hrefers
      refine Source.Within.resolve (fun j hj => ?_) _ hown
      have hj' : j < queries.length := Query.within_iff.mp (hclosed id hid _ hq) j hj
      have hlt := card_reached_lt h hid ⟨_, hq, hj⟩
      exact ih j hj' (by omega)

theorem source_within (hw : w.Sound) (h : Acyclic w.queries) (hid : id < w.queries.length)
    {depth : Nat} (hdepth : w.queries.length ≤ depth) :
    (source w.queries depth id).Within fun _ => False :=
  source_within_of_card hw.closed h depth id hid ((card_reached_le _ _).trans hdepth)

theorem snapshot_within (hw : w.Sound) (h : Acyclic w.queries) (hid : id < w.queries.length) :
    (w.snapshot (w.queryOf id)).Within fun _ => False := by
  have hsource := source_within hw h hid (Nat.le_succ _)
  rwa [source_snapshot hid, Source.Within] at hsource

/-! ## Steps -/

/-- The step leaves the current query without references to queries from which it was reached. -/
def Step.InOrder (w : Workspace) : Step → Prop
  | .clause c =>
    (w.run c).1.query.Within fun id => ¬ ReflTransGen (Uses w.queries) id w.current
  | .clone _ | .fresh _ | .use _ | .disable _ => True

theorem queries_run (hw : w.Sound) (c : Clause) :
    (w.run c).1.queries = w.queries.set w.current (w.run c).1.query := by
  rcases w.run_eq c with h | h
  · rw [h]
    exact (List.set_getElem_self hw.current).symm.trans
      (congrArg _ (Option.some.inj ((List.getElem?_eq_getElem hw.current).symm.trans hw.query)))
  · rw [h]
    simp only [Workspace.query, List.getElem?_set_self hw.current, Option.getD_some]

/-- A step closes a circle exactly when it is out of order. -/
theorem acyclic_step_iff (hw : w.Sound) (h : Acyclic w.queries) (s : Step) :
    Acyclic (w.step s).1.queries ↔ s.InOrder w := by
  cases s with
  | clause c =>
      rw [step, queries_run hw]
      exact acyclic_set_iff h hw.current
  | clone name => exact iff_true_intro (acyclic_copies h hw.closed)
  | fresh name => exact iff_true_intro (acyclic_append h Query.within_empty)
  | use name =>
      rw [step]
      split <;> exact iff_true_intro h
  | disable kind => exact iff_true_intro h

/-- Workspaces that can be built with all steps in order. -/
inductive Ordered : Workspace → Prop where
  | start (grammar : Grammar) : Ordered { grammar }
  | step {w : Workspace} (s : Step) (hw : Ordered w) (hfits : s.Fits w) (horder : s.InOrder w) :
      Ordered (w.step s).1

theorem Ordered.reachable (h : w.Ordered) : w.Reachable := by
  induction h with
  | start grammar => exact .start grammar
  | step s _ hfits _ ih => exact .step s ih hfits

theorem Ordered.acyclic (h : w.Ordered) : Acyclic w.queries := by
  induction h with
  | start grammar =>
      intro id hcycle
      obtain ⟨j, ⟨q, hq, hrefers⟩, -⟩ := TransGen.head'_iff.mp hcycle
      have hmem := List.mem_of_getElem? hq
      rw [List.mem_singleton.mp hmem] at hrefers
      exact hrefers Query.within_empty
  | step s hw _ horder ih => exact (acyclic_step_iff hw.reachable.sound ih s).mpr horder

theorem query_within_of_acyclic (hw : w.Sound) (h : Acyclic w.queries) :
    w.query.Within fun id => ¬ ReflTransGen (Uses w.queries) id w.current := by
  rw [Query.within_iff]
  intro id hid hreach
  exact h w.current (.head' ⟨_, hw.query, hid⟩ hreach)

/-- A clause is in order when no query that it is given reaches the current one. -/
theorem inOrder_of_within (hw : w.Sound) (h : Acyclic w.queries) {c : Clause}
    (hc : c.Within fun id => ¬ ReflTransGen (Uses w.queries) id w.current) :
    (Step.clause c).InOrder w := by
  have hquery := query_within_of_acyclic hw h
  rcases w.run_eq c with heq | heq
  · rwa [Step.InOrder, heq]
  · rw [Step.InOrder, heq]
    simp only [query, List.getElem?_set_self hw.current, Option.getD_some]
    exact c.onQuery_within hc _ hquery

theorem Ordered.clause (h : w.Ordered) {c : Clause} (hfits : c.Within (· < w.queries.length))
    (hc : c.Within fun id => ¬ ReflTransGen (Uses w.queries) id w.current) :
    (w.step (.clause c)).1.Ordered :=
  .step _ h hfits (inOrder_of_within h.reachable.sound h.acyclic hc)

/-- When all steps were in order no query is reached from itself, and the next step leaves it so
exactly if it is in order, as it is if no query that it is given reaches the current one. Then all
queries are put in to the end, the values of every query come to an end, and so does its text when
the prefix has no dot. -/
theorem ordered_ends (hw : w.Ordered) :
    Acyclic w.queries
    ∧ (∀ s : Step, s.Fits w → (Acyclic (w.step s).1.queries ↔ s.InOrder w))
    ∧ (∀ c : Clause, (c.Within fun id => ¬ ReflTransGen (Uses w.queries) id w.current) →
      (Step.clause c).InOrder w)
    ∧ ∀ id < w.queries.length,
      (∀ depth, w.queries.length ≤ depth → (source w.queries depth id).Within fun _ => False)
      ∧ Ends (w.snapshot (w.queryOf id)).bindings
      ∧ ∀ g : Grammar, '.' ∉ g.tablePrefix.toList →
        Ends (g.query (w.snapshot (w.queryOf id))) := by
  have hsound := hw.reachable.sound
  have hacyclic := hw.acyclic
  refine ⟨hacyclic, fun s _ => acyclic_step_iff hsound hacyclic s,
    fun c hc => inOrder_of_within hsound hacyclic hc, fun id hid => ?_⟩
  have hclosed := snapshot_within hsound hacyclic hid
  exact ⟨fun depth hdepth => source_within hsound hacyclic hid hdepth,
    Query.bindings_ends _ hclosed, fun g hfront => g.query_ends hfront _ hclosed⟩

/-- A query that is stored in another one twice and goes on afterwards. -/
theorem ordered_ends_sharing :
    sharing.Ordered ∧ Ends sharing.bindings ∧ Ends sharing.sql := by
  have hordered : sharing.Ordered := by
    have hapart {w : Workspace} (hq : w.queries[1]? = some {}) (hcurrent : w.current = 0) :
        ¬ ReflTransGen (Uses w.queries) 1 w.current :=
      not_reaches_of_within hq Query.within_empty (by rw [hcurrent]; exact Nat.one_ne_zero)
    refine .step (.use "main") (.clause (.step (.use "inner") (.clause (.clause (.clause
      (.step (.fresh "inner") (.start {}) trivial trivial) ?_ ?_) ?_ ?_) ?_ ?_) trivial trivial)
      ?_ ?_) trivial trivial
    · exact ⟨trivial, trivial⟩
    · exact ⟨trivial, trivial⟩
    · exact ⟨trivial, Nat.one_lt_two, trivial, trivial, trivial⟩
    · exact ⟨trivial, hapart rfl rfl, trivial, trivial, trivial⟩
    · exact ⟨Nat.one_lt_two, trivial, trivial⟩
    · exact ⟨hapart rfl rfl, trivial, trivial⟩
    · exact ⟨trivial, trivial⟩
    · exact ⟨trivial, trivial⟩
  obtain ⟨-, -, -, hends⟩ := ordered_ends hordered
  obtain ⟨-, hbindings, hsql⟩ := hends 0 (by decide)
  exact ⟨hordered, hbindings, hsql {} (by decide)⟩

/-- A query on `t` that is stored in itself. -/
def selfReferring : Workspace :=
  [.clause ⟨.fromTable, [.value (.text "t")], .anything⟩,
    .clause ⟨.filter .among,
      [.value (.text "a"), .shared 0, .value (.text "and"), .value (.bool false)],
      .anything⟩].foldl (fun w s => (w.step s).1) {}

/-- A query that is stored in itself can be built, and it has neither values nor a text. -/
theorem selfReferring_never_ends :
    selfReferring.Reachable ∧ ¬ Acyclic selfReferring.queries
      ∧ selfReferring.bindings = .error .endless ∧ selfReferring.sql = .error .endless := by
  have hreachable : selfReferring.Reachable := by
    refine .step _ (.step _ (.start {}) ?_) ?_
    · exact ⟨trivial, trivial⟩
    · exact ⟨trivial, Nat.one_pos, trivial, trivial, trivial⟩
  have hbindings : selfReferring.bindings = .error .endless := rfl
  refine ⟨hreachable, fun hacyclic => ?_, hbindings, rfl⟩
  have hclosed := snapshot_within hreachable.sound hacyclic Nat.one_pos
  exact Query.bindings_ends _ hclosed hbindings

end Workspace

end QueryClient
