import QueryClient.Gzip.Content

/-!
# Compressors

A compressor takes data piece by piece. It gives out what it has whenever it likes, and the rest
when it is told that there is no more.
-/

namespace QueryClient.Gzip

structure Compressor (σ : Type) where
  /-- The state before any data. -/
  start : σ
  /-- Take data, and give out what is ready; that may be nothing. -/
  feed : σ → List UInt8 → σ × Content
  /-- Give out the rest. -/
  finish : σ → Content

namespace Compressor

variable {σ : Type}

/-- Everything that a compressor gives out for pieces of data that begin in a state. -/
def outputFrom (c : Compressor σ) (state : σ) : List (List UInt8) → Content
  | [] => c.finish state
  | data :: rest => (c.feed state data).2 ++ c.outputFrom (c.feed state data).1 rest

/-- Everything that a compressor gives out for pieces of data. -/
def output (c : Compressor σ) (pieces : List (List UInt8)) : Content :=
  c.outputFrom c.start pieces

/-- The compressor that keeps everything to the end and then gives it out in one form. -/
def patient (form : List UInt8 → Content) : Compressor (List UInt8) where
  start := []
  feed before data := (before ++ data, [])
  finish before := form before

theorem patient_outputFrom (form : List UInt8 → Content) (before : List UInt8)
    (pieces : List (List UInt8)) :
    (patient form).outputFrom before pieces = form (before ++ pieces.flatten) := by
  induction pieces generalizing before with
  | nil => simp [outputFrom, patient]
  | cons data rest ih =>
    simp only [outputFrom, patient, List.flatten_cons] at ih ⊢
    simp [ih]

theorem patient_output (form : List UInt8 → Content) (pieces : List (List UInt8)) :
    (patient form).output pieces = form pieces.flatten := by
  simpa [output, patient] using patient_outputFrom form [] pieces

/-! ## What a compressor was fed -/

/-- The state that a compressor is in after pieces of data. -/
def stateAfter (c : Compressor σ) (fed : List (List UInt8)) : σ :=
  fed.foldl (fun state data => (c.feed state data).1) c.start

/-- A compressor that remembers what it was fed instead of a state of its own, and gives out the
same. -/
def remembering (c : Compressor σ) : Compressor (List (List UInt8)) where
  start := []
  feed fed data := (fed ++ [data], (c.feed (c.stateAfter fed) data).2)
  finish fed := c.finish (c.stateAfter fed)

theorem remembering_outputFrom (c : Compressor σ) (fed pieces : List (List UInt8)) :
    c.remembering.outputFrom fed pieces = c.outputFrom (c.stateAfter fed) pieces := by
  induction pieces generalizing fed with
  | nil => rfl
  | cons data rest ih =>
    have hnext : c.stateAfter (fed ++ [data]) = (c.feed (c.stateAfter fed) data).1 := by
      simp [stateAfter]
    rw [outputFrom, outputFrom, ← hnext, ← ih]
    rfl

theorem remembering_output (c : Compressor σ) (pieces : List (List UInt8)) :
    c.remembering.output pieces = c.output pieces :=
  c.remembering_outputFrom [] pieces

end Compressor

end QueryClient.Gzip
