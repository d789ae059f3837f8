import QueryClient.Fault

/-!
# Work on a state

Work that changes a state as it goes and may fail on the way. What it has done to the state stays,
also when it fails.
-/

namespace QueryClient

abbrev Work (σ : Type) := ExceptT Fault (StateM σ)

variable {σ α β : Type}

/-- What comes of work, and the state behind it. -/
def perform (work : Work σ α) (s : σ) : Except Fault α × σ :=
  work.run.run s

theorem perform_bind (work : Work σ α) (next : α → Work σ β) (s : σ) :
    perform (work >>= next) s = match perform work s with
      | (.ok a, s) => perform (next a) s
      | (.error fault, s) => (.error fault, s) := by
  change StateT.run (ExceptT.run (work >>= next)) s = _
  rw [ExceptT.run_bind, StateT.run_bind]
  rcases h : perform work s with ⟨_ | _, _⟩ <;> rw [perform] at h <;> simp only [h] <;> rfl

@[simp] theorem perform_pure (a : α) (s : σ) : perform (pure a) s = (.ok a, s) := rfl

@[simp] theorem perform_lift (outcome : Except Fault α) (s : σ) :
    perform (liftM outcome : Work σ α) s = (outcome, s) := rfl

@[simp] theorem perform_getThe (s : σ) : perform (getThe σ) s = (.ok s, s) := rfl

@[simp] theorem perform_set (s s' : σ) : perform (set s') s = (.ok (), s') := rfl

end QueryClient
