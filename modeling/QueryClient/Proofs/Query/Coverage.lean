import QueryClient.Proofs.Query.Inlining

/-!
# Bound values and written placeholders

The values that a part of a query binds cover its placeholders: there are never fewer, and exactly
as many when every group in it is tight. Both recursions, the one that writes and the one that
binds, visit the parts in the same order, so that coverage is kept by putting parts in a row.
-/

namespace QueryClient

/-- The values that a part binds cover the given ones, which its text has placeholders for. They
are the given ones when every group is tight, and only then are there as many. -/
structure Covers (written : List Value) (bindings : Except Fault (List Value)) (tight : Prop) :
    Prop where
  exact : tight → bindings = .ok written
  bounded : ∀ vs, bindings = .ok vs →
    written.length ≤ vs.length ∧ (vs.length = written.length → tight)

/-- The values of two parts in a row. -/
def appended (first second : Except Fault (List Value)) : Except Fault (List Value) := do
  let vs ← first
  return vs ++ (← second)

theorem appended_eq_ok {first second : Except Fault (List Value)} {vs : List Value}
    (h : appended first second = .ok vs) :
    ∃ vs₁ vs₂, first = .ok vs₁ ∧ second = .ok vs₂ ∧ vs = vs₁ ++ vs₂ := by
  cases first with
  | error fault => cases h
  | ok vs₁ =>
      cases second with
      | error fault => cases h
      | ok vs₂ => cases h; exact ⟨vs₁, vs₂, rfl, rfl, rfl⟩

namespace Covers

variable {written written' : List Value} {bindings bindings' : Except Fault (List Value)}
  {tight tight' : Prop}

theorem ofValues (vs : List Value) : Covers vs (.ok vs) True where
  exact _ := rfl
  bounded _ h := by cases h; exact ⟨Nat.le_refl _, fun _ => trivial⟩

/-- A part that is not written. -/
theorem hidden (bindings : Except Fault (List Value)) : Covers [] bindings (bindings = .ok []) where
  exact h := h
  bounded vs h := ⟨Nat.zero_le _, fun hlen => by rw [h, List.length_eq_zero_iff.mp hlen]⟩

theorem append (h : Covers written bindings tight) (h' : Covers written' bindings' tight') :
    Covers (written ++ written') (appended bindings bindings') (tight ∧ tight') where
  exact ht := by rw [h.exact ht.1, h'.exact ht.2]; rfl
  bounded vs hvs := by
    obtain ⟨vs₁, vs₂, h₁, h₂, rfl⟩ := appended_eq_ok hvs
    obtain ⟨hle, ht⟩ := h.bounded vs₁ h₁
    obtain ⟨hle', ht'⟩ := h'.bounded vs₂ h₂
    simp only [List.length_append]
    -- Neither part can make up for values that the other one has too many.
    exact ⟨by omega, fun hlen => ⟨ht (by omega), ht' (by omega)⟩⟩

theorem congr (h : Covers written bindings tight) (ht : tight ↔ tight') :
    Covers written bindings tight' where
  exact ht' := h.exact (ht.mpr ht')
  bounded vs hvs := ⟨(h.bounded vs hvs).1, fun hlen => ht.mp ((h.bounded vs hvs).2 hlen)⟩

end Covers

/-! ## Parts in a row -/

theorem bindingsOfConditions_cons (c : Condition) (rest : List Condition) :
    bindingsOfConditions (c :: rest) = appended c.bindings (bindingsOfConditions rest) := by
  rw [bindingsOfConditions]; rfl

theorem bindingsOfJoins_cons (j : Join) (rest : List Join) :
    bindingsOfJoins (j :: rest) = appended j.bindings (bindingsOfJoins rest) := by
  rw [bindingsOfJoins]; rfl

theorem bindingsOfUnions_cons (u : Union) (rest : List Union) :
    bindingsOfUnions (u :: rest) = appended u.bindings (bindingsOfUnions rest) := by
  rw [bindingsOfUnions]; rfl

theorem Query.bindings_eq (outline : Outline) (joins : List Join)
    (conditions havings : List Condition) (unions : List Union) :
    (Query.mk outline joins conditions havings unions).bindings
      = appended (appended (appended (bindingsOfJoins joins) (bindingsOfConditions conditions))
          (bindingsOfConditions havings)) (bindingsOfUnions unions) := by
  rw [Query.bindings]
  cases bindingsOfJoins joins with
  | error fault => rfl
  | ok vs =>
      cases bindingsOfConditions conditions with
      | error fault => rfl
      | ok ws =>
          cases bindingsOfConditions havings with
          | error fault => rfl
          | ok hs => cases bindingsOfUnions unions <;> rfl

end QueryClient
