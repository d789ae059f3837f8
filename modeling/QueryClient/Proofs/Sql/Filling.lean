import QueryClient.Proofs.Sql.Inert
import QueryClient.Sql.Bind
import QueryClient.Text.Split

/-!
# Filling a template

Putting values into a statement by position, as a relation between the statement, the values and
the result: every placeholder is replaced by the literal of the next value and every other
character is copied. Binding succeeds exactly when the statement can be filled, and the result is
the only filling.
-/

namespace QueryClient.Sql

/-- A reader who comes to a template in the first region leaves it in the second; the template
becomes the result when its placeholders take the values in order. -/
inductive Filled : Region → List Char → List Value → List Char → Region → Prop
  | nil {r} : Filled r [] [] [] r
  | place {r r' c cs v vs out} (h : r.isPlaceholder c = true)
      (rest : Filled (r.step c) cs vs out r') :
      Filled r (c :: cs) (v :: vs) ((literal v).toList ++ out) r'
  | copy {r r' c cs vs out} (h : r.isPlaceholder c = false)
      (rest : Filled (r.step c) cs vs out r') : Filled r (c :: cs) vs (c :: out) r'

theorem Region.eq_of_isPlaceholder {r : Region} {c : Char} (h : r.isPlaceholder c = true) :
    r = .code ∧ c = '?' := by
  simpa [Region.isPlaceholder] using h

namespace Filled

variable {r r' r'' : Region} {cs ds out out' : List Char} {vs ws : List Value}

/-! ## Shape -/

theorem run_eq (h : Filled r cs vs out r') : r.run cs = r' := by
  induction h with
  | nil => rfl
  | place _ _ ih => exact ih
  | copy _ _ ih => exact ih

theorem count_eq (h : Filled r cs vs out r') : placeholderCount r cs = vs.length := by
  induction h with
  | nil => rfl
  | place hc _ ih => simp [placeholderCount, hc, ih]; omega
  | copy hc _ ih => simp [placeholderCount, hc, ih]

theorem exists_of_count (r : Region) (cs : List Char) (vs : List Value)
    (h : placeholderCount r cs = vs.length) : ∃ out, Filled r cs vs out (r.run cs) := by
  induction cs generalizing r vs with
  | nil =>
      cases vs with
      | nil => exact ⟨[], .nil⟩
      | cons v vs => simp [placeholderCount] at h
  | cons c cs ih =>
      cases hc : r.isPlaceholder c with
      | true =>
          cases vs with
          | nil => simp [placeholderCount, hc] at h
          | cons v vs =>
              simp only [placeholderCount, hc, ↓reduceIte, List.length_cons] at h
              obtain ⟨out, hout⟩ := ih (r.step c) vs (by omega)
              exact ⟨_, .place hc hout⟩
      | false =>
          simp only [placeholderCount, hc, Bool.false_eq_true, ↓reduceIte, Nat.zero_add] at h
          obtain ⟨out, hout⟩ := ih (r.step c) vs h
          exact ⟨_, .copy hc hout⟩

/-! ## Putting templates together -/

theorem append (h : Filled r cs vs out r') (h' : Filled r' ds ws out' r'') :
    Filled r (cs ++ ds) (vs ++ ws) (out ++ out') r'' := by
  induction h with
  | nil => exact h'
  | place hc _ ih => rw [List.append_assoc]; exact .place hc (ih h')
  | copy hc _ ih => exact .copy hc (ih h')

theorem of_append (h : Filled r (cs ++ ds) vs out r'') :
    ∃ vs₁ vs₂ out₁ out₂, vs = vs₁ ++ vs₂ ∧ out = out₁ ++ out₂ ∧
      Filled r cs vs₁ out₁ (r.run cs) ∧ Filled (r.run cs) ds vs₂ out₂ r'' := by
  induction cs generalizing r vs out with
  | nil => exact ⟨[], vs, [], out, rfl, rfl, .nil, h⟩
  | cons c cs ih =>
      cases h with
      | place hc rest =>
          obtain ⟨vs₁, vs₂, out₁, out₂, rfl, rfl, h₁, h₂⟩ := ih rest
          exact ⟨_, vs₂, _, out₂, rfl, (List.append_assoc ..).symm, .place hc h₁, h₂⟩
      | copy hc rest =>
          obtain ⟨vs₁, vs₂, out₁, out₂, rfl, rfl, h₁, h₂⟩ := ih rest
          exact ⟨vs₁, vs₂, _, out₂, rfl, rfl, .copy hc h₁, h₂⟩

theorem of_count_eq_zero (h : placeholderCount r cs = 0) : Filled r cs [] cs (r.run cs) := by
  induction cs generalizing r with
  | nil => exact .nil
  | cons c cs ih =>
      cases hc : r.isPlaceholder c with
      | true => simp [placeholderCount, hc] at h
      | false =>
          simp only [placeholderCount, hc, Bool.false_eq_true, ↓reduceIte, Nat.zero_add] at h
          exact .copy hc (ih h)

end Filled

theorem Inert.filled {cs : List Char} (h : Inert cs) : Filled .code cs [] cs .code := by
  simpa [h.run] using Filled.of_count_eq_zero h.count

theorem filled_placeholder (v : Value) :
    Filled .code "?".toList [v] (literal v).toList .code := by
  have hplace : Region.code.isPlaceholder '?' = true := by decide
  have h := Filled.place (v := v) hplace (Filled.nil (r := Region.code.step '?'))
  rwa [List.append_nil] at h

/-- Templates in a row, with inert text between, take the values of one after the other. -/
theorem Filled.join {α : Type} {template result : α → String} {values : α → List Value}
    {separator : String} (hs : Inert separator.toList) {items : List α}
    (h : ∀ a ∈ items, Filled .code (template a).toList (values a) (result a).toList .code) :
    Filled .code (Text.join separator (items.map template)).toList (items.flatMap values)
      (Text.join separator (items.map result)).toList .code := by
  induction items with
  | nil => exact .nil
  | cons a items ih =>
      rw [List.forall_mem_cons] at h
      have htail := ih h.2
      cases items with
      | nil => simpa using h.1
      | cons b items =>
          have hfront := (h.1.append hs.filled).append htail
          rw [List.append_nil] at hfront
          simp only [List.map_cons] at hfront ⊢
          rw [Text.join_cons_cons, Text.join_cons_cons, List.flatMap_cons]
          simpa only [String.toList_append] using hfront

/-! ## Binding by position -/

theorem interleave_cons_cons (c : Char) (piece : List Char) (more : List (List Char))
    (vs : List Value) : interleave ((c :: piece) :: more) vs = c :: interleave (piece :: more) vs := by
  cases more <;> cases vs <;> rfl

theorem interleave_nil_cons (pieces : List (List Char)) (hp : pieces ≠ []) (v : Value)
    (vs : List Value) :
    interleave ([] :: pieces) (v :: vs) = (literal v).toList ++ interleave pieces vs := by
  cases pieces with
  | nil => exact absurd rfl hp
  | cons piece more => rfl

/-- The pieces between the placeholders, with the literals between them, are the filling. -/
theorem Filled.interleave_eq {r r' : Region} {cs out : List Char} {vs : List Value}
    (h : Filled r cs vs out r') : interleave (pieces r cs) vs = out := by
  induction h with
  | nil => rfl
  | place hc _ ih =>
      rw [pieces, if_pos hc, interleave_nil_cons _ (pieces_ne_nil _ _), ih]
  | copy hc _ ih =>
      rw [pieces, if_neg (by simp [hc])]
      split
      · rename_i piece more heq; rw [interleave_cons_cons, ← heq, ih]
      · rename_i heq; exact absurd heq (pieces_ne_nil _ _)

theorem bindPositional_of_filled {sql out : String} {vs : List Value} {r : Region}
    (h : Filled .code sql.toList vs out.toList r) : bindPositional sql vs = .ok out := by
  simp [bindPositional, length_pieces, h.count_eq, h.interleave_eq]

theorem filled_of_bindPositional {sql out : String} {vs : List Value}
    (h : bindPositional sql vs = .ok out) :
    Filled .code sql.toList vs out.toList (Region.code.run sql.toList) := by
  simp only [bindPositional, length_pieces, beq_iff_eq, Nat.add_right_cancel_iff] at h
  split at h
  · rename_i hcount
    obtain ⟨out', hout⟩ := Filled.exists_of_count .code sql.toList vs hcount
    rw [hout.interleave_eq, Except.ok.injEq] at h
    rw [← h, String.toList_ofList]
    exact hout
  · cases h

theorem bind_cons (sql : String) (v : Value) (vs : List Value) :
    bind sql (.list (v :: vs)) = bindPositional sql (v :: vs) := rfl

/-- Without values a statement is left as it is, which is also its only filling. -/
theorem bind_of_filled {sql out : String} {vs : List Value} {r : Region}
    (h : Filled .code sql.toList vs out.toList r) : bind sql (.list vs) = .ok out := by
  cases vs with
  | nil =>
      have heq : out.toList = sql.toList := by
        have h₀ := Filled.of_count_eq_zero h.count_eq
        rw [← h.interleave_eq, h₀.interleave_eq]
      simp [bind, Value.isTruthy, String.toList_inj.mp heq]
  | cons v vs => rw [bind_cons]; exact bindPositional_of_filled h

theorem filled_of_bind {sql out : String} {vs : List Value} (hvs : vs ≠ [])
    (h : bind sql (.list vs) = .ok out) :
    Filled .code sql.toList vs out.toList (Region.code.run sql.toList) := by
  cases vs with
  | nil => exact absurd rfl hvs
  | cons v vs => rw [bind_cons] at h; exact filled_of_bindPositional h

end QueryClient.Sql
