import Mathlib.Data.Finset.Card
import Mathlib.Order.Monotone.Basic
import QueryClient.Proofs.Query.Readings
import QueryClient.Query.Workspace

/-!
# Depth of shared queries

Shared queries are put in up to a depth. What is read of them grows with the depth, and there are
only so many of them: at the depth of their number nothing is added any more.
-/

namespace QueryClient

namespace Workspace

/-- Queries with the property refer only to others with it. -/
def Closed (queries : List Query) (p : Nat → Prop) : Prop :=
  ∀ id, p id → ∀ q, queries[id]? = some q → q.Within p

variable {queries queries' : List Query} {p : Nat → Prop} {α : Type} (r : Reading α)

theorem source_of_none {id : Nat} (h : queries[id]? = none) (depth : Nat) :
    source queries depth id = .shared id := by
  cases depth with
  | zero => rw [source]
  | succ depth => simp only [source, h]

theorem source_succ {id : Nat} {q : Query} (h : queries[id]? = some q) (depth : Nat) :
    source queries (depth + 1) id = (Source.own q).resolve (source queries depth) := by
  simp only [source, h, Source.resolve]

theorem read_source_zero (id : Nat) : r.read (source queries 0 id) = .error .endless := by
  rw [source, r.read_shared]

/-! ## What depends on what -/

/-- What is read of closed queries depends on these only. -/
theorem read_source_congr (hclosed : Closed queries p)
    (h : ∀ id, p id → queries'[id]? = queries[id]?) (depth : Nat) :
    ∀ id, p id → r.read (source queries' depth id) = r.read (source queries depth id) := by
  induction depth with
  | zero =>
      intro id _
      rw [read_source_zero, read_source_zero]
  | succ depth ih =>
      intro id hid
      cases hq : queries[id]? with
      | none => rw [source_of_none hq, source_of_none ((h id hid).trans hq)]
      | some q =>
          rw [source_succ hq, source_succ ((h id hid).trans hq)]
          exact r.congr ih (hclosed id hid q hq)

/-! ## Depth -/

theorem read_source_below (hclosed : Closed queries p) (depth : Nat) :
    ∀ id, p id → Below (r.read (source queries depth id)) (r.read (source queries (depth + 1) id)) := by
  induction depth with
  | zero =>
      intro id _
      rw [read_source_zero]
      exact .endless _
  | succ depth ih =>
      intro id hid
      cases hq : queries[id]? with
      | none =>
          rw [source_of_none hq, source_of_none hq]
          exact .refl _
      | some q =>
          rw [source_succ hq, source_succ hq]
          exact r.below ih _ (hclosed id hid q hq)

open Classical in
/-- The queries of which something can be read at a depth. -/
noncomputable def readable (queries : List Query) (n depth : Nat) : Finset Nat :=
  (Finset.range n).filter fun id => r.read (source queries depth id) ≠ .error .endless

variable {n : Nat}

theorem mem_readable {depth id : Nat} :
    id ∈ readable r queries n depth
      ↔ id < n ∧ r.read (source queries depth id) ≠ .error .endless := by
  classical
  rw [readable, Finset.mem_filter, Finset.mem_range]

theorem readable_subset (hclosed : Closed queries (· < n)) (depth : Nat) :
    readable r queries n depth ⊆ readable r queries n (depth + 1) := by
  intro id hid
  rw [mem_readable] at hid ⊢
  have hbelow := read_source_below r hclosed depth id hid.1
  rw [← hbelow.eq_of_ne hid.2]
  exact hid

/-- A step that makes nothing else readable changes nothing. -/
theorem read_source_eq (hclosed : Closed queries (· < n)) {depth : Nat}
    (h : readable r queries n depth = readable r queries n (depth + 1)) :
    ∀ id, id < n →
      r.read (source queries depth id) = r.read (source queries (depth + 1) id) := by
  intro id hid
  by_cases hread : r.read (source queries depth id) = .error .endless
  · have hnot : id ∉ readable r queries n (depth + 1) := by
      rw [← h, mem_readable]
      exact fun hmem => hmem.2 hread
    rw [mem_readable, not_and, not_not] at hnot
    rw [hread, hnot hid]
  · exact (read_source_below r hclosed depth id hid).eq_of_ne hread

theorem read_source_succ_eq (hclosed : Closed queries (· < n)) {depth : Nat}
    (h : ∀ id, id < n →
      r.read (source queries depth id) = r.read (source queries (depth + 1) id)) :
    ∀ id, id < n →
      r.read (source queries (depth + 1) id) = r.read (source queries (depth + 2) id) := by
  intro id hid
  cases hq : queries[id]? with
  | none => rw [source_of_none hq, source_of_none hq]
  | some q =>
      rw [source_succ hq, source_succ hq]
      exact r.congr h (hclosed id hid q hq)

theorem readable_succ (hclosed : Closed queries (· < n)) {depth : Nat}
    (h : readable r queries n depth = readable r queries n (depth + 1)) :
    readable r queries n (depth + 1) = readable r queries n (depth + 2) := by
  have hnext := read_source_succ_eq r hclosed (read_source_eq r hclosed h)
  ext id
  rw [mem_readable, mem_readable]
  constructor
  · intro hid
    rw [← hnext id hid.1]
    exact hid
  · intro hid
    rw [hnext id hid.1]
    exact hid

/-- From the depth of their number on, more depth shows nothing else of queries. -/
theorem read_source_stable (hclosed : Closed queries (· < n)) {depth : Nat} (hdepth : n ≤ depth) :
    ∀ id, id < n → r.read (source queries depth id) = r.read (source queries n id) := by
  -- The number of readable queries grows until it stays the same once, and no more after that.
  have hcard (d : Nat) (h : (readable r queries n d).card = (readable r queries n (d + 1)).card) :
      readable r queries n d = readable r queries n (d + 1) :=
    Finset.eq_of_subset_of_card_le (readable_subset r hclosed d) h.ge
  have hmono : Monotone fun d => (readable r queries n d).card :=
    monotone_nat_of_le_succ fun d => Finset.card_le_card (readable_subset r hclosed d)
  have hbound (d : Nat) : (readable r queries n d).card ≤ n := by
    classical
    rw [readable]
    exact (Finset.card_filter_le _ _).trans (Finset.card_range n).le
  have hstable (d : Nat) (hd : n ≤ d) :
      (readable r queries n d).card = (readable r queries n n).card :=
    Nat.stabilises_of_monotone hmono hbound
      (fun d h => congrArg Finset.card (readable_succ r hclosed (hcard d h))) hd
  induction depth, hdepth using Nat.le_induction with
  | base => exact fun _ _ => rfl
  | succ d hd ih =>
      intro id hid
      have hsame := hcard d ((hstable d hd).trans (hstable (d + 1) (by omega)).symm)
      rw [← read_source_eq r hclosed hsame id hid]
      exact ih id hid

/-! ## What stands for the rest -/

/-- Something else behind the depth adds to what can be read. -/
theorem read_source_below_resolve (hclosed : Closed queries p) (rest : Nat → Source) (depth : Nat) :
    ∀ id, p id → Below (r.read (source queries depth id))
      (r.read ((source queries depth id).resolve rest)) := by
  induction depth with
  | zero =>
      intro id _
      rw [read_source_zero]
      exact .endless _
  | succ depth ih =>
      intro id hid
      cases hq : queries[id]? with
      | none =>
          rw [source_of_none hq, r.read_shared]
          exact .endless _
      | some q =>
          rw [source_succ hq, Source.resolve_resolve]
          exact r.below ih _ (hclosed id hid q hq)

/-- What cannot be read adds nothing. -/
theorem read_resolve_below (hclosed : Closed queries p) {rest : Nat → Source}
    (h : ∀ id, r.read (rest id) = .error .endless) (depth : Nat) :
    ∀ id, p id → Below (r.read ((source queries depth id).resolve rest))
      (r.read (source queries depth id)) := by
  induction depth with
  | zero =>
      intro id _
      rw [source, Source.resolve, h]
      exact .endless _
  | succ depth ih =>
      intro id hid
      cases hq : queries[id]? with
      | none =>
          rw [source_of_none hq, Source.resolve, h]
          exact .endless _
      | some q =>
          rw [source_succ hq, Source.resolve_resolve]
          exact r.below ih _ (hclosed id hid q hq)

end Workspace

end QueryClient
