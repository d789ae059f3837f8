import Mathlib.Data.List.Nodup
import QueryClient.Proofs.Query.SharedDepth

/-!
# Copies of queries

A copy of a query takes along every query that is met from it on, each once, and the copies refer to
each other as the queries do. So the same is read of a query and of its copy.
-/

namespace QueryClient.Workspace

variable {queries : List Query} {met₁ met₂ met₃ : List Nat} {id i : Nat}

/-! ## What is met -/

/-- One row of met queries continues another one: no query is in it twice, and with every query
that came in the queries that it refers to are there, if there are such queries. -/
structure Explores (queries : List Query) (met₁ met₂ : List Nat) : Prop where
  before : met₁ <+: met₂
  nodup : met₁.Nodup → met₂.Nodup
  entered : ∀ i ∈ met₂, i ∈ met₁ ∨ ∃ q, queries[i]? = some q
    ∧ ∀ j ∈ q.references, j < queries.length → j ∈ met₂

namespace Explores

theorem refl (queries : List Query) (met : List Nat) : Explores queries met met :=
  ⟨List.prefix_rfl, fun h => h, fun _ hi => .inl hi⟩

theorem trans (h : Explores queries met₁ met₂) (h' : Explores queries met₂ met₃) :
    Explores queries met₁ met₃ where
  before := h.before.trans h'.before
  nodup hnodup := h'.nodup (h.nodup hnodup)
  entered i hi := by
    rcases h'.entered i hi with hmid | hnew
    · rcases h.entered i hmid with hold | ⟨q, hq, hreferences⟩
      · exact .inl hold
      · exact .inr ⟨q, hq, fun j hj hlt => h'.before.subset (hreferences j hj hlt)⟩
    · exact .inr hnew

theorem within (h : Explores queries met₁ met₂) (hwithin : ∀ i ∈ met₁, i < queries.length) :
    ∀ i ∈ met₂, i < queries.length := by
  intro i hi
  rcases h.entered i hi with hold | ⟨q, hq, -⟩
  · exact hwithin i hold
  · exact (List.getElem?_eq_some_iff.mp hq).1

end Explores

/-- As long as a query was not met, fewer were met than there are. -/
theorem length_lt_of_not_mem (hnodup : met₁.Nodup) (hwithin : ∀ i ∈ met₁, i < queries.length)
    (hid : id < queries.length) (hnew : id ∉ met₁) : met₁.length < queries.length := by
  have hsub : id :: met₁ ⊆ List.range queries.length := by
    intro i hi
    rw [List.mem_range]
    rcases List.mem_cons.mp hi with rfl | hi
    · exact hid
    · exact hwithin i hi
  have hle := ((List.nodup_cons.mpr ⟨hnew, hnodup⟩).subperm hsub).length_le
  rwa [List.length_cons, List.length_range] at hle

/-- A walk explores, and it first meets the query that it starts from. The depth is no bound as long
as it is no less than the number of queries that were not met. -/
def Walks (queries : List Query) (depth : Nat) : Prop :=
  ∀ (met : List Nat) (id : Nat), met.Nodup → (∀ i ∈ met, i < queries.length) →
    queries.length ≤ met.length + depth →
      (id < queries.length → id ∈ met ∨ met ++ [id] <+: visit queries depth met id)
        ∧ Explores queries met (visit queries depth met id)

/-- Walks from several queries in a row meet all of these. -/
theorem Walks.foldl {depth : Nat} (h : Walks queries depth) (ids : List Nat) :
    ∀ met : List Nat, met.Nodup → (∀ i ∈ met, i < queries.length) →
      queries.length ≤ met.length + depth →
        (∀ i ∈ ids, i < queries.length → i ∈ ids.foldl (visit queries depth) met)
          ∧ Explores queries met (ids.foldl (visit queries depth) met) := by
  induction ids with
  | nil => exact fun met _ _ _ => ⟨List.forall_mem_nil _, .refl queries met⟩
  | cons id ids ih =>
      intro met hnodup hwithin hdepth
      obtain ⟨hmet, hfirst⟩ := h met id hnodup hwithin hdepth
      obtain ⟨hrest, hlast⟩ := ih _ (hfirst.nodup hnodup) (hfirst.within hwithin)
        (hdepth.trans (Nat.add_le_add_right hfirst.before.length_le depth))
      rw [List.foldl_cons, List.forall_mem_cons]
      refine ⟨⟨fun hid => hlast.before.subset ?_, hrest⟩, hfirst.trans hlast⟩
      exact (hmet hid).elim (hfirst.before.subset ·)
        (·.subset (List.mem_append_right met List.mem_cons_self))

theorem walks (queries : List Query) (depth : Nat) : Walks queries depth := by
  induction depth with
  | zero =>
      intro met id hnodup hwithin hdepth
      refine ⟨fun hid => .inl (by_contra fun hnew => ?_), .refl queries met⟩
      have hlt := length_lt_of_not_mem hnodup hwithin hid hnew
      omega
  | succ depth ih =>
      intro met id hnodup hwithin hdepth
      rw [visit]
      split
      · rename_i hmet
        exact ⟨fun _ => .inl hmet, .refl queries met⟩
      · rename_i hnew
        cases hq : queries[id]? with
        | none =>
            have hout := List.getElem?_eq_none_iff.mp hq
            exact ⟨fun hid => absurd hid (Nat.not_lt.mpr hout), .refl queries met⟩
        | some q =>
            have hid := (List.getElem?_eq_some_iff.mp hq).1
            have hlt := length_lt_of_not_mem hnodup hwithin hid hnew
            have hnodup' : (met ++ [id]).Nodup :=
              List.nodup_append_comm.mp (List.nodup_cons.mpr ⟨hnew, hnodup⟩)
            have hwithin' : ∀ i ∈ met ++ [id], i < queries.length :=
              List.forall_mem_append.mpr ⟨hwithin, List.forall_mem_singleton.mpr hid⟩
            obtain ⟨hmem, hexplores⟩ := ih.foldl q.references (met ++ [id]) hnodup' hwithin'
              (by rw [List.length_append, List.length_singleton]; omega)
            dsimp only
            generalize q.references.foldl (visit queries depth) (met ++ [id]) = met'
              at hmem hexplores ⊢
            refine ⟨fun _ => .inr hexplores.before,
              (List.prefix_append met [id]).trans hexplores.before,
              fun _ => hexplores.nodup hnodup', fun i hi => ?_⟩
            rcases hexplores.entered i hi with hold | hentered
            · rcases List.mem_append.mp hold with hold | hself
              · exact .inl hold
              · rw [List.mem_singleton.mp hself]
                exact .inr ⟨q, hq, hmem⟩
            · exact .inr hentered

theorem met_explores (queries : List Query) (id : Nat) :
    (id < queries.length → [id] <+: met queries id) ∧ Explores queries [] (met queries id) := by
  obtain ⟨hfirst, hexplores⟩ := walks queries queries.length [] id List.nodup_nil
    (List.forall_mem_nil _) (Nat.le_add_left _ _)
  exact ⟨fun hid => (hfirst hid).resolve_left List.not_mem_nil, hexplores⟩

theorem lt_of_mem_met (hi : i ∈ met queries id) : i < queries.length :=
  (met_explores queries id).2.within (List.forall_mem_nil _) i hi

/-- The query itself is the first that is met. -/
theorem exists_met_eq (hid : id < queries.length) : ∃ rest, met queries id = id :: rest := by
  obtain ⟨rest, hrest⟩ := (met_explores queries id).1 hid
  exact ⟨rest, hrest.symm⟩

/-- What is met refers only to what is met. -/
theorem within_met (hclosed : Closed queries (· < queries.length)) (hi : i ∈ met queries id) :
    ∃ q, queries[i]? = some q ∧ q.Within (· ∈ met queries id) := by
  obtain ⟨q, hq, hreferences⟩ :=
    ((met_explores queries id).2.entered i hi).resolve_left List.not_mem_nil
  have hlt := q.within_iff_references.mp (hclosed i (lt_of_mem_met hi) q hq)
  exact ⟨q, hq, q.within_iff_references.mpr fun j hj => hreferences j hj (hlt j hj)⟩

/-! ## What the copies are -/

theorem length_copies (queries : List Query) (id : Nat) :
    (copies queries id).length = (met queries id).length :=
  List.length_map _

theorem length_copies_pos (hid : id < queries.length) : 0 < (copies queries id).length := by
  obtain ⟨rest, hmet⟩ := exists_met_eq hid
  rw [length_copies, hmet]
  exact Nat.succ_pos _

theorem copyNumber_of_mem {first : Nat} (hi : i ∈ met₁) :
    copyNumber first met₁ i = first + met₁.idxOf i :=
  if_pos hi

/-- A copy stands where its number says. -/
theorem getElem?_append_copies {q : Query} (hi : i ∈ met queries id) (hq : queries[i]? = some q) :
    (queries ++ copies queries id)[copyNumber queries.length (met queries id) i]?
      = some (q.resolve fun j => .shared (copyNumber queries.length (met queries id) j)) := by
  rw [copyNumber_of_mem hi, List.getElem?_append_right (Nat.le_add_right _ _),
    Nat.add_sub_cancel_left, copies, List.getElem?_map, List.getElem?_idxOf hi, Option.map_some, hq,
    Option.getD_some]

/-- The number is one of a copy. -/
def IsCopy (queries : List Query) (id i : Nat) : Prop :=
  queries.length ≤ i ∧ i < queries.length + (copies queries id).length

theorem isCopy_copyNumber (hi : i ∈ met queries id) :
    IsCopy queries id (copyNumber queries.length (met queries id) i) := by
  have hlt := List.idxOf_lt_length_of_mem hi
  rw [copyNumber_of_mem hi, IsCopy, length_copies]
  omega

theorem copyNumber_self (hid : id < queries.length) :
    copyNumber queries.length (met queries id) id = queries.length := by
  obtain ⟨rest, hmet⟩ := exists_met_eq hid
  rw [hmet, copyNumber_of_mem List.mem_cons_self, List.idxOf_cons_self, Nat.add_zero]

variable (hclosed : Closed queries (· < queries.length))

include hclosed

/-- Every copy is that of a query that is met. -/
theorem exists_of_getElem?_copies {k : Nat} {copy : Query}
    (h : (copies queries id)[k]? = some copy) :
    ∃ i q, (met queries id)[k]? = some i ∧ queries[i]? = some q ∧ q.Within (· ∈ met queries id)
      ∧ copy = q.resolve fun j => .shared (copyNumber queries.length (met queries id) j) := by
  rw [copies, List.getElem?_map, Option.map_eq_some_iff] at h
  obtain ⟨i, hi, rfl⟩ := h
  obtain ⟨q, hq, hwithin⟩ := within_met hclosed (List.mem_of_getElem? hi)
  exact ⟨i, q, hi, hq, hwithin, by rw [hq, Option.getD_some]⟩

/-- Copies refer to copies only. -/
theorem within_copies {copy : Query} (hcopy : copy ∈ copies queries id) :
    copy.Within (IsCopy queries id) := by
  obtain ⟨k, hk⟩ := List.mem_iff_getElem?.mp hcopy
  obtain ⟨i, q, -, -, hwithin, rfl⟩ := exists_of_getElem?_copies hclosed hk
  refine Query.Within.resolve (fun j hj => ?_) q hwithin
  rw [Source.Within]
  exact isCopy_copyNumber hj

theorem closed_copies : Closed (queries ++ copies queries id) (IsCopy queries id) := by
  intro i hi q hq
  rw [List.getElem?_append_right hi.1] at hq
  exact within_copies hclosed (List.mem_of_getElem? hq)

/-- At any depth the same is read of what is met and of its copy. -/
theorem read_source_copies {α : Type} (r : Reading α) (depth : Nat) :
    ∀ i ∈ met queries id, r.read (source (queries ++ copies queries id) depth
        (copyNumber queries.length (met queries id) i)) = r.read (source queries depth i) := by
  induction depth with
  | zero =>
      intro i _
      rw [read_source_zero, read_source_zero]
  | succ depth ih =>
      intro i hi
      obtain ⟨q, hq, hwithin⟩ := within_met hclosed hi
      rw [source_succ hq, source_succ (getElem?_append_copies hi hq), ← Source.resolve,
        Source.resolve_resolve]
      exact r.congr ih hwithin

end QueryClient.Workspace
