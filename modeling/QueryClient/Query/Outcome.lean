import QueryClient.Fault

/-!
# Changes that may go wrong

A change leaves a state behind even when it goes wrong on the way: what was done before stays done.
-/

namespace QueryClient

/-- How a change ends: with the state it leaves and, when it went wrong, with the failure. -/
structure Outcome (σ : Type) where
  state : σ
  fault : Option Fault := none

namespace Outcome

variable {σ τ : Type}

/-- A change that went through. -/
def done (s : σ) : Outcome σ :=
  ⟨s, none⟩

/-- A change that went wrong in a state. -/
def failed (s : σ) (fault : Fault) : Outcome σ :=
  ⟨s, some fault⟩

/-- A change that is made as a whole or not at all. -/
def ofResult (before : σ) : Except Fault σ → Outcome σ
  | .ok after => done after
  | .error fault => failed before fault

/-- Go on with another change unless the first one went wrong. -/
def andThen (o : Outcome σ) (next : σ → Outcome σ) : Outcome σ :=
  match o.fault with
  | none => next o.state
  | some _ => o

/-- A change of a part as a change of the whole. -/
def within (o : Outcome σ) (put : σ → τ) : Outcome τ :=
  ⟨put o.state, o.fault⟩

/-- The state, when the change went through. -/
def result (o : Outcome σ) : Except Fault σ :=
  match o.fault with
  | none => .ok o.state
  | some fault => .error fault

@[simp] theorem andThen_done (s : σ) (next : σ → Outcome σ) : (done s).andThen next = next s := rfl

@[simp] theorem andThen_failed (s : σ) (fault : Fault) (next : σ → Outcome σ) :
    (failed s fault).andThen next = failed s fault := rfl

@[simp] theorem result_done (s : σ) : (done s).result = .ok s := rfl

@[simp] theorem result_failed (s : σ) (fault : Fault) :
    (failed s fault).result = .error fault := rfl

@[simp] theorem result_ofResult (before : σ) (e : Except Fault σ) :
    (ofResult before e).result = e := by
  cases e <;> rfl

/-! ## The state that is left -/

variable {P : σ → Prop} {o : Outcome σ}

theorem state_ofResult {before : σ} {e : Except Fault σ} (hbefore : P before)
    (h : ∀ s, e = .ok s → P s) : P (ofResult before e).state := by
  cases e with
  | error fault => exact hbefore
  | ok s => exact h s rfl

theorem state_andThen {next : σ → Outcome σ} (ho : P o.state) (h : ∀ s, P s → P (next s).state) :
    P (o.andThen next).state := by
  unfold andThen
  split
  · exact h _ ho
  · exact ho

theorem state_of_result {s : σ} (h : o.result = .ok s) : o.state = s := by
  unfold result at h
  split at h
  · exact Except.ok.inj h
  · cases h

end Outcome

end QueryClient
