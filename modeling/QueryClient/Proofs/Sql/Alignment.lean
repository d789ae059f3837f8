import QueryClient.Proofs.Sql.Trimming
import QueryClient.Text.Split

/-!
# Templates and their results

A template is aligned with values and a result when it has one placeholder for each value and
becomes the result as soon as the values are bound. Templates are put together and trimmed in the
same way as their results, so that alignment is kept by everything a statement is made with.
-/

namespace QueryClient.Sql

/-! ## One template -/

/-- A reader leaves the template outside quotes, finds a placeholder for each value, and binding
them gives the result. -/
structure Aligned (t : String) (vs : List Value) (out : String) : Prop where
  closed : Region.code.run t.toList = .code
  count : placeholderCount .code t.toList = vs.length
  filled : (∀ v ∈ vs, v.Compact) → Filled .code t.toList vs out.toList .code

theorem Inert.aligned {t : String} (h : Inert t.toList) : Aligned t [] t :=
  ⟨h.run, h.count, fun _ => h.filled⟩

theorem aligned_empty : Aligned "" [] "" :=
  Inert.aligned (by decide)

theorem aligned_placeholder (v : Value) : Aligned "?" [v] (literal v) where
  closed := by decide
  count := by rfl
  filled _ := filled_placeholder v

theorem aligned_of_bind {t : String} {vs : List Value} (hclosed : Region.code.run t.toList = .code)
    (hcount : placeholderCount .code t.toList = vs.length) :
    ∃ out, bind t (.list vs) = .ok out ∧ Aligned t vs out := by
  obtain ⟨out, hout⟩ := Filled.exists_of_count .code t.toList vs hcount
  rw [hclosed, ← String.toList_ofList (l := out)] at hout
  exact ⟨_, bind_of_filled hout, hclosed, hcount, fun _ => hout⟩

namespace Aligned

variable {s t out out' : String} {vs ws : List Value}

theorem append (h : Aligned s vs out) (h' : Aligned t ws out') :
    Aligned (s ++ t) (vs ++ ws) (out ++ out') where
  closed := by rw [String.toList_append, Region.run_append, h.closed, h'.closed]
  count := by
    rw [String.toList_append, placeholderCount_append, h.closed, h.count, h'.count,
      List.length_append]
  filled hv := by
    simp only [List.forall_mem_append] at hv
    rw [String.toList_append, String.toList_append]
    exact (h.filled hv.1).append (h'.filled hv.2)

theorem append_inert (h : Aligned s vs out) (ht : Inert t.toList) :
    Aligned (s ++ t) vs (out ++ t) := by
  simpa using h.append ht.aligned

theorem inert_append (hs : Inert s.toList) (h : Aligned t vs out) :
    Aligned (s ++ t) vs (s ++ out) :=
  hs.aligned.append h

theorem trim (h : Aligned t vs out) : Aligned (Text.trim t) vs (Text.trim out) := by
  simp only [Text.trim]
  refine ⟨?_, ?_, fun hv => ?_⟩
  · rw [String.toList_ofList]; exact run_trimChars h.closed
  · rw [String.toList_ofList, count_trimChars h.closed, h.count]
  · rw [String.toList_ofList, String.toList_ofList]
    exact (h.filled hv).trim hv

theorem trimStart (h : Aligned t vs out) : Aligned (Text.trimStart t) vs (Text.trimStart out) := by
  simp only [Text.trimStart]
  refine ⟨?_, ?_, fun hv => ?_⟩
  · rw [String.toList_ofList]; exact run_trimStartChars h.closed
  · rw [String.toList_ofList, count_trimStartChars h.closed, h.count]
  · rw [String.toList_ofList, String.toList_ofList]
    exact (h.filled hv).trimStart hv

theorem bind_eq (h : Aligned t vs out) (hv : ∀ v ∈ vs, v.Compact) :
    bind t (.list vs) = .ok out :=
  bind_of_filled (h.filled hv)

end Aligned

/-! ## Several templates in a row -/

/-- Templates that take their values one after the other. -/
inductive AlignedAll : List String → List Value → List String → Prop
  | nil : AlignedAll [] [] []
  | cons {t ts vs ws out outs} (head : Aligned t vs out) (tail : AlignedAll ts ws outs) :
      AlignedAll (t :: ts) (vs ++ ws) (out :: outs)

namespace AlignedAll

variable {ts ts' outs outs' : List String} {vs ws : List Value}

theorem single {t out : String} (h : Aligned t vs out) : AlignedAll [t] vs [out] := by
  simpa using cons h nil

theorem ofInert (h : ∀ t ∈ ts, Inert t.toList) : AlignedAll ts [] ts := by
  induction ts with
  | nil => exact nil
  | cons t ts ih =>
      simp only [List.forall_mem_cons] at h
      exact cons h.1.aligned (ih h.2)

theorem append (h : AlignedAll ts vs outs) (h' : AlignedAll ts' ws outs') :
    AlignedAll (ts ++ ts') (vs ++ ws) (outs ++ outs') := by
  induction h with
  | nil => exact h'
  | cons head _ ih => rw [List.append_assoc]; exact cons head ih

theorem isEmpty_eq (h : AlignedAll ts vs outs) : outs.isEmpty = ts.isEmpty := by
  cases h <;> rfl

theorem values_eq_nil (h : AlignedAll ts vs outs) (hts : ts.isEmpty = true) : vs = [] := by
  cases h with
  | nil => rfl
  | cons head tail => cases hts

theorem join {separator : String} (hs : Inert separator.toList) (h : AlignedAll ts vs outs) :
    Aligned (Text.join separator ts) vs (Text.join separator outs) := by
  induction h with
  | nil => exact aligned_empty
  | cons head tail ih =>
      cases tail with
      | nil => simpa using head
      | cons next more =>
          rw [Text.join_cons_cons, Text.join_cons_cons]
          exact (head.append_inert hs).append ih

theorem concat (h : AlignedAll ts vs outs) : Aligned (String.join ts) vs (String.join outs) := by
  induction h with
  | nil => exact aligned_empty
  | cons head tail ih =>
      rw [String.join_cons, String.join_cons]
      exact head.append ih

end AlignedAll

end QueryClient.Sql
