import QueryClient.Sql.Literal
import QueryClient.Sql.Placeholder

/-!
# Texts that a reader of SQL passes without trace

A text is inert when it holds no placeholder and a reader who comes to it outside quotes leaves it
outside quotes. Inert texts can be put together in any way; string literals are inert whatever
they hold.
-/

namespace QueryClient.Sql

/-! ## Reading two texts in a row -/

theorem placeholderCount_append (r : Region) (cs ds : List Char) :
    placeholderCount r (cs ++ ds) = placeholderCount r cs + placeholderCount (r.run cs) ds := by
  induction cs generalizing r with
  | nil => simp [placeholderCount]
  | cons c cs ih => simp only [List.cons_append, placeholderCount, Region.run_cons, ih]; omega

/-! ## Inert texts -/

/-- The text leads from outside quotes to outside quotes and holds no placeholder. -/
structure Inert (cs : List Char) : Prop where
  run : Region.code.run cs = .code
  count : placeholderCount .code cs = 0

instance (cs : List Char) : Decidable (Inert cs) :=
  decidable_of_iff (Region.code.run cs = .code ∧ placeholderCount .code cs = 0)
    ⟨fun h => ⟨h.1, h.2⟩, fun h => ⟨h.run, h.count⟩⟩

/-- A character that means nothing to the reader outside quotes. -/
def isPlain (c : Char) : Bool :=
  !isQuote c && c != '?'

theorem Region.step_plain {c : Char} (h : isPlain c = true) : Region.code.step c = .code := by
  simp only [isPlain, Bool.and_eq_true, Bool.not_eq_true'] at h
  simp [Region.step, h.1]

theorem Region.isPlaceholder_plain {c : Char} (h : isPlain c = true) :
    Region.code.isPlaceholder c = false := by
  simp only [isPlain, Bool.and_eq_true, bne_iff_ne, ne_eq] at h
  simp [Region.isPlaceholder, h.2]

namespace Inert

theorem nil : Inert [] := ⟨rfl, rfl⟩

theorem append {cs ds : List Char} (hc : Inert cs) (hd : Inert ds) : Inert (cs ++ ds) where
  run := by rw [Region.run_append, hc.run, hd.run]
  count := by rw [placeholderCount_append, hc.run, hc.count, hd.count]

theorem cons {c : Char} {cs : List Char} (hc : isPlain c = true) (h : Inert cs) :
    Inert (c :: cs) where
  run := by rw [Region.run_cons, Region.step_plain hc, h.run]
  count := by simp [placeholderCount, Region.isPlaceholder_plain hc, Region.step_plain hc, h.count]

theorem ofPlain {cs : List Char} (h : ∀ c ∈ cs, isPlain c = true) : Inert cs := by
  induction cs with
  | nil => exact nil
  | cons c cs ih => exact cons (h c (by simp)) (ih fun d hd => h d (by simp [hd]))

/-- What is left of an inert text after plain characters in front of it. -/
theorem of_append {cs ds : List Char} (hc : Inert cs) (h : Inert (cs ++ ds)) : Inert ds where
  run := by simpa [Region.run_append, hc.run] using h.run
  count := by
    have := h.count
    rw [placeholderCount_append, hc.run] at this
    omega

end Inert

/-! ## String literals -/

/-- Inside a literal a reader never gets to its end: what would end it is escaped. -/
theorem run_escapeChar (c : Char) :
    (Region.quoted '\'').run (escapeChar c) = .quoted '\'' := by
  unfold escapeChar
  split
  · simp [Region.step]
  · rename_i h
    have hslash : c ≠ '\\' := by rintro rfl; simp [escapeLetter?] at h
    have hquote : c ≠ '\'' := by rintro rfl; simp [escapeLetter?] at h
    simp [Region.step, hslash, hquote]

theorem run_escaped (cs : List Char) :
    (Region.quoted '\'').run (cs.flatMap escapeChar) = .quoted '\'' := by
  induction cs with
  | nil => rfl
  | cons c cs ih => rw [List.flatMap_cons, Region.run_append, run_escapeChar, ih]

/-- Outside code nothing is a placeholder. -/
theorem count_escapeChar (c : Char) :
    placeholderCount (.quoted '\'') (escapeChar c) = 0 := by
  unfold escapeChar
  split <;> simp [placeholderCount, Region.isPlaceholder, Region.step]

theorem count_escaped (cs : List Char) :
    placeholderCount (.quoted '\'') (cs.flatMap escapeChar) = 0 := by
  induction cs with
  | nil => rfl
  | cons c cs ih =>
    rw [List.flatMap_cons, placeholderCount_append, run_escapeChar, count_escapeChar, ih]

theorem inert_quoteChars (cs : List Char) : Inert (quoteChars cs) where
  run := by
    simp only [quoteChars, List.cons_append, Region.run_cons, Region.run_append]
    have hopen : Region.code.step '\'' = .quoted '\'' := by decide
    rw [hopen, run_escaped]
    decide
  count := by
    have hopen : Region.code.step '\'' = .quoted '\'' := by decide
    simp only [quoteChars, List.cons_append, placeholderCount, placeholderCount_append, hopen,
      run_escaped, count_escaped]
    decide

theorem inert_quoteText (s : String) : Inert (quoteText s).toList := by
  rw [quoteText, String.toList_ofList]
  exact inert_quoteChars s.toList

end QueryClient.Sql
