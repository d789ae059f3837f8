import QueryClient.Proofs.Query.Groups

/-!
# Callbacks of groups

Of the clauses in the operands of a clause, those that fill in a group are run on a group that
belongs where the conditions do. All others are run on new queries, whatever the conditions belong
to.
-/

namespace QueryClient

/-- The clauses of the callback that fills in a group, when the clause adds one. -/
def Clause.groupClauses? : Clause → Option (List Clause)
  | ⟨.filter .add, .callback clauses :: .value .missing :: _, _⟩ => some clauses
  | ⟨.filter .nested, .callback clauses :: _, _⟩ => some clauses
  | _ => none

/-- The clause has a property, and so have the clauses in its groups, to any depth. -/
inductive Clause.Grouped (ok : Clause → Prop) : Clause → Prop where
  | intro {clause : Clause} (h : ok clause)
      (hgroup : ∀ clauses, clause.groupClauses? = some clauses → ∀ c ∈ clauses, Grouped ok c) :
      Grouped ok clause

variable {g : Grammar} {find : Nat → Source}

theorem Operand.eq_callback {o : Operand} {a : Argument} (h : o.argumentWith g find = .ok a)
    (ha : a.isCallback = true) :
    ∃ clauses, o = .callback clauses
      ∧ a = .callback (buildQuery g find clauses) (buildJoin g find clauses) := by
  cases o with
  | callback clauses =>
      rw [argumentWith] at h
      cases h
      exact ⟨clauses, rfl, rfl⟩
  | value v | shared id =>
      rw [argumentWith] at h
      cases h
      cases ha
  | entries pairs | query clauses =>
      rw [argumentWith] at h
      obtain ⟨_, -, h⟩ := ok_of_bind h
      cases h
      cases ha
  | broken fault =>
      rw [argumentWith] at h
      cases h

theorem Operand.eq_missing {o : Operand} {a : Argument} (h : o.argumentWith g find = .ok a)
    (ha : a.isMissing = true) : o = .value .missing := by
  cases o with
  | value v =>
      rw [argumentWith] at h
      cases h
      cases v <;> first | rfl | cases ha
  | callback clauses | shared id =>
      rw [argumentWith] at h
      cases h
      cases ha
  | entries pairs | query clauses =>
      rw [argumentWith] at h
      obtain ⟨_, -, h⟩ := ok_of_bind h
      cases h
      cases ha
  | broken fault =>
      rw [argumentWith] at h
      cases h

theorem exists_operand {operands : List Operand} {a : Argument} {arguments : List Argument}
    (h : argumentsWith g find operands = .ok (a :: arguments)) :
    ∃ o rest, operands = o :: rest ∧ o.argumentWith g find = .ok a
      ∧ argumentsWith g find rest = .ok arguments := by
  cases operands with
  | nil =>
      rw [argumentsWith] at h
      cases h
  | cons o rest =>
      rw [argumentsWith] at h
      obtain ⟨a', ha, h⟩ := ok_of_bind h
      obtain ⟨arguments', harguments, h⟩ := ok_of_bind h
      cases h
      exact ⟨o, rest, rfl, ha, harguments⟩

/-- Where a filter fills in a group, its clause has the clauses for it. -/
theorem exists_groupClauses {filter : Filter} {operands : List Operand} {arguments : List Argument}
    {callback : Argument} (harguments : argumentsWith g find operands = .ok arguments)
    (h : filter.groupCallback? arguments = some callback) (reach : Reach) :
    ∃ clauses, Clause.groupClauses? ⟨.filter filter, operands, reach⟩ = some clauses
      ∧ callback = .callback (buildQuery g find clauses) (buildJoin g find clauses) := by
  unfold Filter.groupCallback? at h
  split at h
  · split at h
    · rename_i hgroup
      cases h
      rw [Bool.and_eq_true] at hgroup
      obtain ⟨o, rest, rfl, ho, hrest⟩ := exists_operand harguments
      obtain ⟨o', rest', rfl, ho', -⟩ := exists_operand hrest
      obtain ⟨clauses, rfl, hcallback⟩ := Operand.eq_callback ho hgroup.1
      obtain rfl := Operand.eq_missing ho' hgroup.2
      exact ⟨clauses, rfl, hcallback⟩
    · cases h
  · split at h
    · rename_i hgroup
      cases h
      obtain ⟨o, rest, rfl, ho, -⟩ := exists_operand harguments
      obtain ⟨clauses, rfl, hcallback⟩ := Operand.eq_callback ho hgroup
      exact ⟨clauses, rfl, hcallback⟩
    · cases h
  · cases h

end QueryClient
