import QueryClient.Proofs.Query.Building
import QueryClient.Proofs.Query.References

/-!
# Building keeps references in range

A query refers to no shared queries but those that it or an operand of a clause referred to before.
-/

namespace QueryClient

/-! ## Operands -/

mutual

/-- All shared queries in the operand have a property. -/
def Operand.Within (p : Nat → Prop) : Operand → Prop
  | .entries pairs => WithinEntries p pairs
  | .callback clauses | .query clauses => WithinClauses p clauses
  | .shared id => p id
  | .value _ | .broken _ => True

def WithinEntries (p : Nat → Prop) : List (Value × Operand) → Prop
  | [] => True
  | (_, operand) :: rest => operand.Within p ∧ WithinEntries p rest

def WithinOperands (p : Nat → Prop) : List Operand → Prop
  | [] => True
  | operand :: rest => operand.Within p ∧ WithinOperands p rest

/-- All shared queries in the operands of the clause have a property. -/
def Clause.Within (p : Nat → Prop) : Clause → Prop
  | ⟨_, operands, _⟩ => WithinOperands p operands

def WithinClauses (p : Nat → Prop) : List Clause → Prop
  | [] => True
  | clause :: rest => clause.Within p ∧ WithinClauses p rest

end

variable {p : Nat → Prop}

mutual

theorem Operand.Within.everywhere : (o : Operand) → o.Within p → o.Everywhere (fun _ => True) p
  | .entries pairs, h => by
      simp only [Operand.Within] at h
      simp only [Operand.Everywhere]
      exact WithinEntries.everywhere pairs h
  | .callback clauses, h | .query clauses, h => by
      simp only [Operand.Within] at h
      simp only [Operand.Everywhere]
      exact WithinClauses.everywhere clauses h
  | .shared id, h => by simpa only [Operand.Within, Operand.Everywhere] using h
  | .value _, _ | .broken _, _ => by simp only [Operand.Everywhere]

theorem WithinEntries.everywhere : (pairs : List (Value × Operand)) → WithinEntries p pairs →
    EverywhereInEntries (fun _ => True) p pairs
  | [], _ => trivial
  | (_, operand) :: rest, h =>
      ⟨Operand.Within.everywhere operand h.1, WithinEntries.everywhere rest h.2⟩

theorem WithinOperands.everywhere : (operands : List Operand) → WithinOperands p operands →
    EverywhereInOperands (fun _ => True) p operands
  | [], _ => trivial
  | operand :: rest, h =>
      ⟨Operand.Within.everywhere operand h.1, WithinOperands.everywhere rest h.2⟩

theorem Clause.Within.everywhere : (clause : Clause) → clause.Within p →
    clause.Everywhere (fun _ => True) p
  | ⟨_, operands, _⟩, h => by
      simp only [Clause.Within] at h
      simp only [Clause.Everywhere, true_and]
      exact WithinOperands.everywhere operands h

theorem WithinClauses.everywhere : (clauses : List Clause) → WithinClauses p clauses →
    EverywhereInClauses (fun _ => True) p clauses
  | [], _ => trivial
  | clause :: rest, h => ⟨Clause.Within.everywhere clause h.1, WithinClauses.everywhere rest h.2⟩

end

/-! ## Queries -/

/-- The rule for references alone. -/
def Rule.references (p : Nat → Prop) : Rule where
  condition _ := True
  outline _ := True
  shared := p

mutual

theorem Condition.obeys_references : (c : Condition) → (c.Obeys (.references p) ↔ c.Within p)
  | .group _ members => by
      simp only [Condition.Obeys, Condition.Within, Rule.references, true_and]
      exact Group.obeys_references members
  | .amongRows _ _ source _ | .compareRow _ _ _ source | .existence _ source _ => by
      simp only [Condition.Obeys, Condition.Within, Rule.references, true_and]
      exact Source.obeys_references source
  | .sql .. | .compare .. | .among .. | .isNull .. | .between .. | .datePart ..
  | .compareColumns .. => by simp only [Condition.Obeys, Condition.Within, Rule.references]

theorem Group.obeys_references : (m : Group) → (m.Obeys (.references p) ↔ m.Within p)
  | .query q => by
      simp only [Group.Obeys, Group.Within]
      exact Query.obeys_references q
  | .join j => by
      simp only [Group.Obeys, Group.Within]
      exact Join.obeys_references j

theorem Source.obeys_references : (s : Source) → (s.Obeys (.references p) ↔ s.Within p)
  | .own q => by
      simp only [Source.Obeys, Source.Within]
      exact Query.obeys_references q
  | .shared _ => by simp only [Source.Obeys, Source.Within, Rule.references]
  | .other _ => by simp only [Source.Obeys, Source.Within]

theorem Join.obeys_references : (j : Join) → (j.Obeys (.references p) ↔ j.Within p)
  | ⟨_, _, conditions⟩ => by
      simp only [Join.Obeys, Join.Within]
      exact conditionsObey_references conditions

theorem Union.obeys_references : (u : Union) → (u.Obeys (.references p) ↔ u.Within p)
  | ⟨source, _⟩ => by
      simp only [Union.Obeys, Union.Within]
      exact Source.obeys_references source

theorem Query.obeys_references : (q : Query) → (q.Obeys (.references p) ↔ q.Within p)
  | ⟨_, joins, conditions, havings, unions⟩ => by
      have houtline (outline : Outline) : (Rule.references p).outline outline := trivial
      simp only [Query.Obeys, Query.Within, houtline, true_and, joinsObey_references joins,
        conditionsObey_references conditions, conditionsObey_references havings,
        unionsObey_references unions]

theorem conditionsObey_references : (cs : List Condition) →
    (ConditionsObey (.references p) cs ↔ WithinConditions p cs)
  | [] => .rfl
  | c :: cs => and_congr (Condition.obeys_references c) (conditionsObey_references cs)

theorem joinsObey_references : (js : List Join) →
    (JoinsObey (.references p) js ↔ WithinJoins p js)
  | [] => .rfl
  | j :: js => and_congr (Join.obeys_references j) (joinsObey_references js)

theorem unionsObey_references : (us : List Union) →
    (UnionsObey (.references p) us ↔ WithinUnions p us)
  | [] => .rfl
  | u :: us => and_congr (Union.obeys_references u) (unionsObey_references us)

end

/-- Whether or not a clause goes through, it brings in no other references. -/
theorem Clause.onQuery_within {g : Grammar} {find : Nat → Source} (clause : Clause)
    (hclause : clause.Within p) (q : Query) (hq : q.Within p) :
    (clause.onQuery g find q).state.Within p := by
  rw [← Query.obeys_references] at hq ⊢
  have hall := Clause.Within.everywhere clause hclause
  refine Clause.onQuery_obeys (fun _ => trivial) (fun c _ => ?_) clause hall q hq
  exact fun _ _ _ _ => ⟨fun _ _ => trivial, fun _ _ _ _ => trivial⟩

end QueryClient
