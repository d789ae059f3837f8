import QueryClient.Sql.Placeholder

/-!
# Where a reader of SQL stands

What is known of the region that a reader has come to: which quote would end it, and what a quote
does that is meant to end another one.
-/

namespace QueryClient.Sql.Region

/-- The quote that ends the region. -/
def quote? : Region → Option Char
  | .code => none
  | .quoted quote | .escaped quote => some quote

/-- A region that is ended by a quote, if it has to be ended at all. -/
def Proper (r : Region) : Prop :=
  ∀ quote ∈ r.quote?, isQuote quote = true

/-- A region that does not end with the given quote. -/
def Outside (k : Char) (r : Region) : Prop :=
  r.Proper ∧ k ∉ r.quote?

/-- A region in which a dot or a word is an ordinary part of the text. -/
def Settled (r : Region) : Prop :=
  r = .code ∨ ∃ quote, isQuote quote = true ∧ r = .quoted quote

theorem Settled.proper {r : Region} (h : r.Settled) : r.Proper := by
  rcases h with rfl | ⟨quote, hq, rfl⟩
  · simp [Proper, quote?]
  · simpa [Proper, quote?] using hq

theorem quote?_step (r : Region) (c : Char) :
    (r.step c).quote? = none ∨ (r.step c).quote? = r.quote? ∨
      isQuote c = true ∧ (r.step c).quote? = some c := by
  cases r with
  | code => simp only [step]; split <;> simp_all [quote?]
  | quoted quote =>
      simp only [step]
      split
      · simp [quote?]
      · split <;> simp [quote?]
  | escaped quote => simp [step, quote?]

theorem Proper.step {r : Region} (h : r.Proper) (c : Char) : (r.step c).Proper := by
  intro quote hq
  rcases quote?_step r c with hs | hs | ⟨hc, hs⟩
  · simp [hs] at hq
  · exact h quote (hs ▸ hq)
  · rw [hs] at hq; cases hq; exact hc

theorem Proper.run {r : Region} (h : r.Proper) (cs : List Char) : (r.run cs).Proper := by
  induction cs generalizing r with
  | nil => exact h
  | cons c cs ih => exact ih (h.step c)

theorem Outside.step {k : Char} {r : Region} (h : Outside k r) {c : Char} (hc : c ≠ k) :
    Outside k (r.step c) := by
  refine ⟨h.1.step c, fun hk => ?_⟩
  rcases quote?_step r c with hs | hs | ⟨-, hs⟩
  · simp [hs] at hk
  · exact h.2 (hs ▸ hk)
  · rw [hs] at hk; cases hk; exact hc rfl

theorem Outside.run {k : Char} {r : Region} (h : Outside k r) {cs : List Char} (hk : k ∉ cs) :
    Outside k (r.run cs) := by
  induction cs generalizing r with
  | nil => exact h
  | cons c cs ih =>
      simp only [List.mem_cons, not_or] at hk
      exact ih (h.step (Ne.symm hk.1)) hk.2

theorem outside_code (k : Char) : Outside k .code := by
  simp [Outside, Proper, quote?]

theorem outside_quoted {k quote : Char} (hq : isQuote quote = true) (hk : quote ≠ k) :
    Outside k (.quoted quote) := by
  simp [Outside, Proper, quote?, hq, hk]

/-- A quote always leaves a settled region behind. -/
theorem Proper.settled_step {r : Region} (h : r.Proper) {k : Char} (hk : isQuote k = true) :
    (r.step k).Settled := by
  cases r with
  | code => exact .inr ⟨k, hk, by simp [Region.step, hk]⟩
  | quoted quote =>
      have hslash : k ≠ '\\' := by rintro rfl; simp [isQuote] at hk
      by_cases heq : k = quote
      · subst heq; exact .inl (by simp [Region.step, hslash])
      · exact .inr ⟨quote, h quote rfl, by simp [Region.step, hslash, heq]⟩
  | escaped quote => exact .inr ⟨quote, h quote rfl, rfl⟩

/-- Meant to end a region, a quote that meets a reader elsewhere begins one or does nothing. -/
theorem Outside.quoted_step {k : Char} {r : Region} (h : Outside k r) (hk : isQuote k = true) :
    ∃ quote, isQuote quote = true ∧ r.step k = .quoted quote := by
  cases r with
  | code => exact ⟨k, hk, by simp [Region.step, hk]⟩
  | quoted quote =>
      have hslash : k ≠ '\\' := by rintro rfl; simp [isQuote] at hk
      have heq : k ≠ quote := by rintro rfl; exact h.2 rfl
      exact ⟨quote, h.1 quote rfl, by simp [Region.step, hslash, heq]⟩
  | escaped quote => exact ⟨quote, h.1 quote rfl, rfl⟩

end QueryClient.Sql.Region
