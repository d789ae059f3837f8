import Mathlib.Data.List.Induction
import QueryClient.Proofs.Sql.BoundData
import QueryClient.Proofs.Sql.LiteralWords

/-!
# Bound values and the format of a statement

Values that are put into a statement leave the format that it names as it is, when the placeholders
stand outside quotes and comments and touch no word. One combination is excepted: a minus sign in
front of a placeholder and a negative number make two minus signs, and with those a comment begins.
-/

namespace QueryClient.Sql

open Text (isWordChar)

/-! ## Where a placeholder stands -/

/-- The character at a position stands outside quotes and comments, and no word touches it. -/
structure StandsFree (sql : List Char) (position : Nat) : Prop where
  outside : (Place.bare.run (sql.take position)).isEnclosed = false
  before : ∀ c ∈ (sql.take position).getLast?, isWordChar c = false
  after : ∀ c ∈ (sql.drop (position + 1)).head?, isWordChar c = false

instance (sql : List Char) (position : Nat) : Decidable (StandsFree sql position) :=
  decidable_of_iff
    ((Place.bare.run (sql.take position)).isEnclosed = false
      ∧ (∀ c ∈ (sql.take position).getLast?, isWordChar c = false)
      ∧ ∀ c ∈ (sql.drop (position + 1)).head?, isWordChar c = false)
    ⟨fun h => ⟨h.1, h.2.1, h.2.2⟩, fun h => ⟨h.1, h.2, h.3⟩⟩

namespace Place

theorem isWordChar_of_step {p : Place} {c : Char} {reversed : List Char}
    (h : p.step c = .word reversed) : isWordChar c = true := by
  unfold step begin at h
  grind

theorem eq_minus_of_step {p : Place} {c : Char} (h : p.step c = .minus) : c = '-' := by
  unfold step begin at h
  grind

theorem run_concat (p : Place) (cs : List Char) (c : Char) :
    p.run (cs ++ [c]) = (p.run cs).step c := by
  rw [run_append]
  rfl

/-- Only behind a minus sign a reader waits for another one. -/
theorem getLast?_of_run_eq_minus {cs : List Char} (h : bare.run cs = .minus) :
    cs.getLast? = some '-' := by
  cases cs using List.reverseRecOn with
  | nil => cases h
  | append_singleton cs c =>
      rw [run_concat] at h
      rw [List.getLast?_concat, eq_minus_of_step h]

end Place

theorem StandsFree.isFree {done cs : List Char} (h : StandsFree (done ++ cs) done.length) :
    (Place.bare.run done).isFree = true := by
  have houtside := h.outside
  have hbefore := h.before
  rw [List.take_left] at houtside hbefore
  cases hplace : Place.bare.run done with
  | bare | minus | slash => rfl
  | word reversed =>
      cases done using List.reverseRecOn with
      | nil => cases hplace
      | append_singleton done c =>
          rw [Place.run_concat] at hplace
          have hword := Place.isWordChar_of_step hplace
          rw [List.getLast?_concat] at hbefore
          rw [hbefore c rfl] at hword
          cases hword
  | _ => rw [hplace] at houtside; cases houtside

/-! ## Following both texts -/

/-- A search in the template and one in the result that have come to the same part of the text,
which is still to be read. -/
inductive Alike : Search → Search → List Char → Prop
  | same {s cs} : Alike s s cs
  | behind {t cs} (h : t.Done) (hcs : ∀ c ∈ cs.head?, isWordChar c = false) :
      Alike (.idle .bare) t cs

namespace Alike

variable {s t : Search} {c : Char} {cs : List Char}

theorem result_eq (h : Alike s t []) : t.result = s.result := by
  cases h with
  | same => rfl
  | behind h _ =>
      rcases h with rfl | h
      · rfl
      · exact h.result

/-- A character of the template is read alike on both sides. -/
theorem step_eq (h : Alike s t (c :: cs)) : t.step c = s.step c := by
  cases h with
  | same => rfl
  | behind h hcs =>
      rcases h with rfl | h
      · rfl
      · exact h.step (hcs c rfl)

end Alike

theorem Search.ready_of_isFree {s : Search} (hplace : s.place.isFree = true)
    (hfound : s.found = none) : s.Ready := by
  obtain ⟨place, armed, found⟩ := s
  cases hfound
  exact .free hplace

theorem step_placeholder {s : Search} (h : s.Ready) : s.step '?' = .idle .bare :=
  h.step_mark (by decide) (by decide) (by decide) fun _ => by decide

theorem Filled.search_eq {r r' : Region} {cs out : List Char} {vs : List Value}
    (h : Filled r cs vs out r') (done : List Char) {s t : Search} (hst : Alike s t cs)
    (hplace : s.place = Place.bare.run done)
    (hfree : ∀ i ∈ placeholderPositions r done.length cs, StandsFree (done ++ cs) i)
    (hraw : ∀ v ∈ vs, v.writesRaw = false)
    (hminus : ∀ iv ∈ (placeholderPositions r done.length cs).zip vs,
      ((done ++ cs).take iv.1).getLast? = some '-' → (literal iv.2).toList.head? ≠ some '-') :
    (t.run out).result = (s.run cs).result := by
  -- The induction is on what is still to be read. Behind a placeholder the search in the
  -- template goes on as if nothing were in front, and the one in the result behind a literal.
  induction h generalizing done s t with
  | nil => exact hst.result_eq
  | @place _ _ c cs v vs out hc _ ih =>
      obtain ⟨rfl, rfl⟩ := Region.eq_of_isPlaceholder hc
      have hsplit : done ++ '?' :: cs = (done ++ ['?']) ++ cs := List.append_cons done '?' cs
      have hlength : done.length + 1 = (done ++ ['?']).length := by simp
      simp only [placeholderPositions, hc, ↓reduceIte, List.zip_cons_cons, List.forall_mem_cons]
        at hfree hminus hraw
      obtain ⟨hhere, hfree⟩ := hfree
      obtain ⟨hdash, hminus⟩ := hminus
      rw [List.take_left] at hdash
      have hnext : ∀ d ∈ cs.head?, isWordChar d = false := by
        have hafter := hhere.after
        rwa [hsplit, hlength, List.drop_left] at hafter
      rw [hsplit, hlength] at hfree hminus
      cases hfound : s.found with
      | some format =>
          cases hst with
          | same => rw [Search.result_of_found hfound, Search.result_of_found hfound]
          | behind => cases hfound
      | none =>
          have hs : s.Ready := Search.ready_of_isFree (hplace ▸ hhere.isFree) hfound
          have ht : (t.run (literal v).toList).Done := by
            cases hst with
            | same =>
                refine passes_literal v hraw.1 s hs fun hp => hdash ?_
                exact Place.getLast?_of_run_eq_minus (hplace.symm.trans hp)
            | behind hdone _ =>
                exact passes_literal v hraw.1 t hdone.ready fun hp => absurd hp hdone.place_ne
          rw [Search.run_append, Search.run_cons, step_placeholder hs]
          refine ih (done ++ ['?']) (.behind ht hnext) ?_ hfree hraw.2 hminus
          rw [Place.run_concat, ← hplace, ← Search.place_step, step_placeholder hs]
  | @copy _ _ c cs vs out hc _ ih =>
      have hsplit : done ++ c :: cs = (done ++ [c]) ++ cs := List.append_cons done c cs
      have hlength : done.length + 1 = (done ++ [c]).length := by simp
      simp only [placeholderPositions, hc, Bool.false_eq_true, ↓reduceIte, hsplit, hlength]
        at hfree hminus
      rw [Search.run_cons, Search.run_cons, hst.step_eq]
      exact ih (done ++ [c]) .same (by rw [Search.place_step, hplace, Place.run_concat]) hfree hraw
        hminus

/-! ## Binding -/

/-- Values that are no raw SQL, and hold none that would be written out, leave the format of a
statement as it is, unless a negative number stands behind a minus sign. -/
theorem bind_keeps_format {sql : String} {vs : List Value}
    (hcount : (placeholderPositions .code 0 sql.toList).length = vs.length)
    (hfree : ∀ i ∈ placeholderPositions .code 0 sql.toList, StandsFree sql.toList i)
    (hraw : ∀ v ∈ vs, v.writesRaw = false)
    (hminus : ∀ iv ∈ (placeholderPositions .code 0 sql.toList).zip vs,
      (sql.toList.take iv.1).getLast? = some '-' → (literal iv.2).toList.head? ≠ some '-') :
    ∃ out, bind sql (.list vs) = .ok out ∧ findFormat? out = findFormat? sql := by
  rw [length_placeholderPositions] at hcount
  obtain ⟨out, hout⟩ := Filled.exists_of_count .code sql.toList vs hcount
  refine ⟨String.ofList out, bind_of_filled (by rwa [String.toList_ofList]), ?_⟩
  rw [findFormat?_eq, findFormat?_eq, String.toList_ofList]
  exact hout.search_eq [] .same rfl hfree hraw hminus

/-- A positive number right behind a minus sign, a negative one at a distance, and a text that holds
the beginning of a comment and a clause. -/
theorem bind_keeps_format_minus :
    let sql := "select a -?, b - ?, ? FORMAT JSON"
    let vs : List Value := [.int 1, .int (-2), .list [.null, .text "it's -- FORMAT CSV"]]
    (placeholderPositions .code 0 sql.toList).length = vs.length
      ∧ (∀ i ∈ placeholderPositions .code 0 sql.toList, StandsFree sql.toList i)
      ∧ (∀ v ∈ vs, v.writesRaw = false)
      ∧ (∀ iv ∈ (placeholderPositions .code 0 sql.toList).zip vs,
          (sql.toList.take iv.1).getLast? = some '-' → (literal iv.2).toList.head? ≠ some '-')
      ∧ ∃ out, bind sql (.list vs) = .ok out ∧ findFormat? out = findFormat? sql := by
  have hcount : (placeholderPositions .code 0 "select a -?, b - ?, ? FORMAT JSON".toList).length
      = [Value.int 1, .int (-2), .list [.null, .text "it's -- FORMAT CSV"]].length := by
    decide
  have hfree : ∀ i ∈ placeholderPositions .code 0 "select a -?, b - ?, ? FORMAT JSON".toList,
      StandsFree "select a -?, b - ?, ? FORMAT JSON".toList i := by
    decide
  have hraw : ∀ v ∈ [Value.int 1, .int (-2), .list [.null, .text "it's -- FORMAT CSV"]],
      v.writesRaw = false := by
    decide
  have hminus : ∀ iv ∈ (placeholderPositions .code 0 "select a -?, b - ?, ? FORMAT JSON".toList).zip
        [Value.int 1, .int (-2), .list [.null, .text "it's -- FORMAT CSV"]],
      ("select a -?, b - ?, ? FORMAT JSON".toList.take iv.1).getLast? = some '-' →
        (literal iv.2).toList.head? ≠ some '-' := by
    decide
  exact ⟨hcount, hfree, hraw, hminus, bind_keeps_format hcount hfree hraw hminus⟩

/-- A negative number behind a minus sign hides the clause in a comment. -/
theorem bind_hides_format :
    let sql := "select 1 -? FORMAT JSON"
    (placeholderPositions .code 0 sql.toList).length = 1
      ∧ (∀ i ∈ placeholderPositions .code 0 sql.toList, StandsFree sql.toList i)
      ∧ (Value.int (-1)).writesRaw = false
      ∧ bind sql (.list [.int (-1)]) = .ok "select 1 --1 FORMAT JSON"
      ∧ findFormat? sql = some "JSON" ∧ findFormat? "select 1 --1 FORMAT JSON" = none := by
  refine ⟨by decide, by decide, by simp [Value.writesRaw], rfl, ?_, ?_⟩
  · rw [findFormat?_eq]
    decide +kernel
  · rw [findFormat?_eq]
    decide +kernel

end QueryClient.Sql
