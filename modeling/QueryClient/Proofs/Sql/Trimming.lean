import Mathlib.Data.List.Induction
import QueryClient.Proofs.Sql.Filling
import QueryClient.Proofs.Sql.Region
import QueryClient.Proofs.Text.Padding

/-!
# Trimming templates

White space at the ends of a template can be trimmed before or after values are put into it. The
results are the same when no literal is empty or begins or ends with white space, which only raw
SQL can do.
-/

namespace QueryClient

namespace Value

/-- The SQL that a value stands for when it is put into a statement without quotes. -/
def expression? : Value → Option String
  | raw inner => some inner.display
  | member inner => inner.expression?
  | _ => none

/-- Raw SQL, if the value is any, has no white space around it. -/
def Trimmed (v : Value) : Prop :=
  ∀ s ∈ v.expression?, Text.Unpadded s.toList

/-- Raw SQL, if the value is any, has no white space around it and is not empty. -/
def Compact (v : Value) : Prop :=
  ∀ s ∈ v.expression?, Text.Solid s.toList

instance (v : Value) : Decidable v.Trimmed :=
  inferInstanceAs (Decidable (∀ s ∈ v.expression?, Text.Unpadded s.toList))

instance (v : Value) : Decidable v.Compact :=
  inferInstanceAs (Decidable (∀ s ∈ v.expression?, Text.Solid s.toList))

theorem compact_null : null.Compact := by
  simp [Compact, expression?]

end Value

namespace Sql

open Text (Solid isBlank trimChars trimStartChars trimEndChars)

/-! ## Literals -/

theorem solid_quoteText (s : String) : Solid (quoteText s).toList := by
  rw [quoteText, String.toList_ofList]
  exact Text.solid_between _ (by decide) (by decide)

theorem solid_brackets (s : String) : Solid ("[" ++ s ++ "]").toList := by
  simp only [String.toList_append]
  exact Text.solid_between s.toList (by decide) (by decide)

theorem solid_literal : (v : Value) → v.Compact → Solid (literal v).toList
  | .raw inner, h => by rw [literal]; exact h _ rfl
  | .member inner, h => by rw [literal]; exact solid_literal inner h
  | .null, _ => by rw [literal]; exact Text.Unblank.solid (by decide) (by decide)
  | .bool b, _ => by
      rw [literal]
      cases b with
      | false => exact Text.Unblank.solid (by decide) (by decide)
      | true => exact Text.Unblank.solid (by decide) (by decide)
  | .int n, _ => by rw [literal]; exact (Text.unblank_int n).solid (Text.int_ne_nil n)
  | .float x, _ => by rw [literal]; exact (Text.unblank_float x).solid (Text.float_ne_nil x)
  | .decimal d, _ => by
      rw [literal]
      exact (Text.unblank_decimal d).solid (Text.decimal_ne_nil d)
  | .list _, _ | .tuple _, _ | .set _, _ => by rw [literal]; exact solid_brackets _
  | .text _, _ | .bytes _, _ | .bytearray _, _ | .date _, _ | .datetime _, _ | .time _, _
  | .uuid _, _ | .dict _, _ | .statement _, _ | .missing, _ | .query, _ | .callback, _ => by
      rw [literal]; exact solid_quoteText _

/-! ## White space and readers -/

theorem isPlain_of_isBlank {c : Char} (h : isBlank c = true) : isPlain c = true := by
  have hquote : ∀ d : Char, isBlank d = false → c ≠ d := by
    rintro d hd rfl; rw [h] at hd; cases hd
  simp [isPlain, isQuote, hquote '\'' (by decide), hquote '"' (by decide),
    hquote '\x60' (by decide), hquote '?' (by decide)]

theorem isBlank_of_isPlaceholder {r : Region} {c : Char} (h : r.isPlaceholder c = true) :
    isBlank c = false := by
  rw [(Region.eq_of_isPlaceholder h).2]
  decide

/-- White space takes no reader out of quotes. -/
theorem Region.Proper.eq_code_of_step {r : Region} (hr : r.Proper) {c : Char}
    (hc : isBlank c = true) (h : r.step c = .code) : r = .code := by
  cases r with
  | code => rfl
  | quoted quote =>
      have hplain := isPlain_of_isBlank hc
      simp only [isPlain, Bool.and_eq_true, Bool.not_eq_true'] at hplain
      have hne : c ≠ quote := by rintro rfl; simp [hr c rfl] at hplain
      simp only [Region.step, hne, ↓reduceIte] at h
      split at h <;> cases h
  | escaped quote => cases h

/-! ## Trimming a filling -/

namespace Filled

variable {r r' : Region} {cs out : List Char} {vs : List Value}

theorem trimStart (h : Filled .code cs vs out r') (hv : ∀ v ∈ vs, v.Compact) :
    Filled .code (trimStartChars cs) vs (trimStartChars out) r' := by
  induction cs generalizing vs out with
  | nil => cases h; exact .nil
  | cons c cs ih =>
      cases h with
      | @place _ _ _ _ v _ _ hc rest =>
          rw [Text.trimStartChars_of_head (isBlank_of_isPlaceholder hc),
            (solid_literal v (hv v (by simp))).trimStartChars_append]
          exact .place hc rest
      | copy hc rest =>
          cases hblank : isBlank c with
          | true =>
              rw [Text.trimStartChars_blank hblank, Text.trimStartChars_blank hblank]
              rw [Region.step_plain (isPlain_of_isBlank hblank)] at rest
              exact ih rest hv
          | false =>
              rw [Text.trimStartChars_of_head hblank, Text.trimStartChars_of_head hblank]
              exact .copy hc rest

/-- A filling of a text that ends with a character ends with that character or its literal. -/
theorem of_concat {c : Char} (h : Filled r (cs ++ [c]) vs out r') :
    (∃ vs' v out', vs = vs' ++ [v] ∧ out = out' ++ (literal v).toList
        ∧ (r.run cs).isPlaceholder c = true ∧ Filled r cs vs' out' (r.run cs))
      ∨ ∃ out', out = out' ++ [c] ∧ (r.run cs).step c = r' ∧ Filled r cs vs out' (r.run cs) := by
  obtain ⟨vs₁, vs₂, out₁, out₂, rfl, rfl, h₁, h₂⟩ := h.of_append
  cases h₂ with
  | @place _ _ _ _ v _ _ hc rest =>
      cases rest
      exact .inl ⟨vs₁, v, out₁, rfl, by rw [List.append_nil], hc, h₁⟩
  | copy hc rest =>
      cases rest
      rw [List.append_nil]
      exact .inr ⟨out₁, rfl, rfl, h₁⟩

theorem trimEnd (h : Filled .code cs vs out .code) (hv : ∀ v ∈ vs, v.Compact) :
    Filled .code (trimEndChars cs) vs (trimEndChars out) .code := by
  induction cs using List.reverseRecOn generalizing out with
  | nil => cases h; exact .nil
  | append_singleton cs c ih =>
      rcases h.of_concat with ⟨vs', v, out', rfl, rfl, hc, hinit⟩ | ⟨out', rfl, hstep, hinit⟩
      · rw [Text.trimEndChars_of_last (isBlank_of_isPlaceholder hc),
          (solid_literal v (hv v (by simp))).trimEndChars_append]
        exact h
      · cases hblank : isBlank c with
        | true =>
            rw [Text.trimEndChars_blank hblank, Text.trimEndChars_blank hblank]
            have hcode := ((Region.outside_code c).1.run cs).eq_code_of_step hblank hstep
            rw [hcode] at hinit
            exact ih hinit
        | false =>
            rw [Text.trimEndChars_of_last hblank, Text.trimEndChars_of_last hblank]
            exact h

theorem trim (h : Filled .code cs vs out .code) (hv : ∀ v ∈ vs, v.Compact) :
    Filled .code (trimChars cs) vs (trimChars out) .code :=
  (h.trimStart hv).trimEnd hv

end Filled

/-! ## Trimming a text that is read -/

/-- Some filling without white space around literals, to see what trimming keeps. -/
theorem exists_filled {cs : List Char} (h : Region.code.run cs = .code) :
    ∃ vs out, Filled .code cs vs out .code ∧ ∀ v ∈ vs, v.Compact := by
  obtain ⟨out, hout⟩ := Filled.exists_of_count .code cs
    (List.replicate (placeholderCount .code cs) .null) (List.length_replicate ..).symm
  rw [h] at hout
  refine ⟨_, out, hout, fun v hv => ?_⟩
  rw [List.eq_of_mem_replicate hv]
  exact Value.compact_null

theorem run_trimStartChars {cs : List Char} (h : Region.code.run cs = .code) :
    Region.code.run (trimStartChars cs) = .code := by
  obtain ⟨vs, out, hf, hv⟩ := exists_filled h
  exact (hf.trimStart hv).run_eq

theorem count_trimStartChars {cs : List Char} (h : Region.code.run cs = .code) :
    placeholderCount .code (trimStartChars cs) = placeholderCount .code cs := by
  obtain ⟨vs, out, hf, hv⟩ := exists_filled h
  rw [(hf.trimStart hv).count_eq, hf.count_eq]

theorem run_trimChars {cs : List Char} (h : Region.code.run cs = .code) :
    Region.code.run (trimChars cs) = .code := by
  obtain ⟨vs, out, hf, hv⟩ := exists_filled h
  exact (hf.trim hv).run_eq

theorem count_trimChars {cs : List Char} (h : Region.code.run cs = .code) :
    placeholderCount .code (trimChars cs) = placeholderCount .code cs := by
  obtain ⟨vs, out, hf, hv⟩ := exists_filled h
  rw [(hf.trim hv).count_eq, hf.count_eq]

end Sql

end QueryClient
