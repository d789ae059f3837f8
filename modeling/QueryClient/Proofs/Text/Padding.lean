import QueryClient.Number.FloatText
import QueryClient.Text.Blank

/-!
# White space around texts

A text is unpadded when no white space stands at its ends, and solid when, besides, it is not
empty: trimming never goes past a solid text. Texts of numbers are solid because they hold no
white space at all.
-/

namespace QueryClient.Text

/-! ## Solid texts -/

/-- No white space stands at either end. -/
structure Unpadded (cs : List Char) : Prop where
  head : ∀ c ∈ cs.head?, isBlank c = false
  last : ∀ c ∈ cs.getLast?, isBlank c = false

/-- Something other than white space stands at both ends. -/
structure Solid (cs : List Char) : Prop extends Unpadded cs where
  nonempty : cs ≠ []

theorem unpadded_iff (cs : List Char) :
    Unpadded cs ↔ cs.head?.all (!isBlank ·) = true ∧ cs.getLast?.all (!isBlank ·) = true := by
  simp only [Option.all_eq_true, Bool.not_eq_true']
  exact ⟨fun h => ⟨h.head, h.last⟩, fun h => ⟨h.1, h.2⟩⟩

-- Only the two characters at the ends are looked at, not all there are.
instance (cs : List Char) : Decidable (Unpadded cs) :=
  decidable_of_iff' _ (unpadded_iff cs)

instance (cs : List Char) : Decidable (Solid cs) :=
  decidable_of_iff (Unpadded cs ∧ cs ≠ []) ⟨fun h => ⟨h.1, h.2⟩, fun h => ⟨h.toUnpadded, h.nonempty⟩⟩

/-- No white space stands anywhere in the text. -/
def Unblank (cs : List Char) : Prop :=
  ∀ c ∈ cs, isBlank c = false

instance (cs : List Char) : Decidable (Unblank cs) :=
  decidable_of_iff (cs.all (!isBlank ·) = true) (by simp [Unblank])

theorem Unblank.append {cs ds : List Char} (hc : Unblank cs) (hd : Unblank ds) :
    Unblank (cs ++ ds) := by
  intro c h
  rcases List.mem_append.mp h with h | h
  · exact hc c h
  · exact hd c h

theorem Unblank.solid {cs : List Char} (h : Unblank cs) (hne : cs ≠ []) : Solid cs where
  head c hc := h c (List.mem_of_head? hc)
  last c hc := h c (List.mem_of_getLast? hc)
  nonempty := hne

/-- A text between two brackets or quotes. -/
theorem solid_between {c d : Char} (cs : List Char) (hc : isBlank c = false)
    (hd : isBlank d = false) : Solid (c :: (cs ++ [d])) where
  head := by simpa using hc
  last := by simpa [List.getLast?_cons] using hd
  nonempty := List.cons_ne_nil _ _

/-! ## Numbers -/

theorem isBlank_of_isDigit {c : Char} (h : c.isDigit = true) : isBlank c = false := by
  simp only [Char.isDigit, Bool.and_eq_true, decide_eq_true_eq, ge_iff_le, UInt32.le_iff_toNat_le]
    at h
  have hn : c.toNat = c.val.toNat := rfl
  have h48 : '0'.val.toNat = 48 := rfl
  have h57 : '9'.val.toNat = 57 := rfl
  simp only [isBlank, Bool.or_eq_false_iff, Bool.and_eq_false_imp, decide_eq_true_eq,
    decide_eq_false_iff_not, beq_eq_false_iff_ne, ne_eq]
  omega

theorem isDigit_of_mem_repr {n : Nat} {c : Char} (h : c ∈ (toString n).toList) :
    c.isDigit = true := by
  rw [show toString n = n.repr from rfl, Nat.toList_repr] at h
  exact Nat.isDigit_of_mem_toDigits (by decide) (by decide) h

theorem unblank_repr (n : Nat) : Unblank (toString n).toList :=
  fun _ hc => isBlank_of_isDigit (isDigit_of_mem_repr hc)

theorem repr_ne_nil (n : Nat) : (toString n).toList ≠ [] := by
  rw [show toString n = n.repr from rfl, Nat.toList_repr]
  exact Nat.toDigits_ne_nil

/-- A whole number is written with digits and a minus sign. -/
theorem mem_int {n : Int} {c : Char} (h : c ∈ (toString n).toList) : c = '-' ∨ c.isDigit = true := by
  cases n with
  | ofNat n => exact .inr (isDigit_of_mem_repr h)
  | negSucc n =>
      rw [show toString (Int.negSucc n) = "-" ++ toString (n + 1) from rfl, String.toList_append] at h
      rcases List.mem_append.mp h with h | h
      · exact .inl (List.mem_singleton.mp h)
      · exact .inr (isDigit_of_mem_repr h)

theorem unblank_int (n : Int) : Unblank (toString n).toList := by
  intro c hc
  rcases mem_int hc with rfl | hdigit
  · decide
  · exact isBlank_of_isDigit hdigit

theorem int_ne_nil (n : Int) : (toString n).toList ≠ [] := by
  cases n with
  | ofNat n => exact repr_ne_nil n
  | negSucc n =>
      rw [show toString (Int.negSucc n) = "-" ++ toString (n + 1) from rfl, String.toList_append]
      simp

theorem unblank_replicate (n : Nat) {c : Char} (hc : isBlank c = false) :
    Unblank (List.replicate n c) :=
  fun _ hd => List.eq_of_mem_replicate hd ▸ hc

theorem unblank_signText (negative : Bool) : Unblank (Number.signText negative).toList := by
  cases negative <;> decide

theorem unblank_withPoint {digits : List Char} (h : Unblank digits) (places : Int) :
    Unblank (Number.withPoint digits places).toList := by
  unfold Number.withPoint
  split
  · simp only [String.toList_append, String.toList_ofList]
    exact Unblank.append (by decide) ((unblank_replicate _ (by decide)).append h)
  · split
    · rwa [String.toList_ofList]
    · rw [String.toList_ofList]
      intro c hc
      rcases List.mem_append.mp hc with hc | hc
      · exact h c (List.mem_of_mem_take hc)
      · rcases List.mem_cons.mp hc with rfl | hc
        · decide
        · exact h c (List.mem_of_mem_drop hc)

theorem unblank_decimal (d : Number.Decimal) : Unblank d.text.toList := by
  cases d with
  | infinite negative =>
      rw [Number.Decimal.text, String.toList_append]
      exact (unblank_signText negative).append (by decide)
  | nan negative signaling payload =>
      rw [Number.Decimal.text, String.toList_append, String.toList_append]
      refine ((unblank_signText negative).append ?_).append ?_
      · cases signaling <;> decide
      · split
        · decide
        · exact unblank_repr payload
  | finite negative coefficient exponent =>
      have hdigits := unblank_repr coefficient
      rw [Number.Decimal.text, String.toList_append]
      refine (unblank_signText negative).append ?_
      split
      · split
        · rwa [String.toList_ofList]
        · exact unblank_withPoint hdigits _
      · rw [String.toList_append, String.toList_append, Number.exponentText, String.toList_append]
        refine ((unblank_withPoint hdigits 1).append (by decide)).append ?_
        refine Unblank.append ?_ (unblank_repr _)
        split <;> decide

theorem unblank_paddedExponent (e : Int) : Unblank (Number.paddedExponent e).toList := by
  rw [Number.paddedExponent, String.toList_append]
  refine Unblank.append ?_ ?_
  · split <;> decide
  · split
    · rw [String.toList_append]
      exact Unblank.append (by decide) (unblank_repr _)
    · exact unblank_repr _

theorem unblank_digits (d : Number.Digits) : Unblank d.text.toList := by
  have hdigits := unblank_repr d.digits
  simp only [Number.Digits.text]
  split
  · split
    · simp only [String.toList_append, String.toList_ofList]
      exact (hdigits.append (unblank_replicate _ (by decide))).append (by decide)
    · exact unblank_withPoint hdigits _
  · rw [String.toList_append, String.toList_append]
    exact ((unblank_withPoint hdigits 1).append (by decide)).append (unblank_paddedExponent _)

theorem unblank_float (x : Float) : Unblank (Number.floatText x).toList := by
  unfold Number.floatText
  cases Number.Binary64.ofFloat x with
  | nan => decide
  | infinite negative =>
      rw [Number.Binary64.text, String.toList_append]
      exact (unblank_signText negative).append (by decide)
  | finite negative m q =>
      rw [Number.Binary64.text, String.toList_append]
      refine (unblank_signText negative).append ?_
      split
      · decide
      · exact unblank_digits (Number.shortest m q)

/-! ## Texts of numbers are solid -/

theorem append_ne_nil {s t : String} (h : t.toList ≠ []) : (s ++ t).toList ≠ [] := by
  rw [String.toList_append]
  exact List.append_ne_nil_of_right_ne_nil _ h

theorem withPoint_ne_nil {digits : List Char} (h : digits ≠ []) (places : Int) :
    (Number.withPoint digits places).toList ≠ [] := by
  unfold Number.withPoint
  split
  · exact append_ne_nil (by simpa using fun _ => h)
  · split
    · simpa using h
    · simp

theorem decimal_ne_nil (d : Number.Decimal) : d.text.toList ≠ [] := by
  cases d with
  | infinite negative => exact append_ne_nil (by decide)
  | nan negative signaling payload =>
      rw [Number.Decimal.text, String.append_assoc]
      refine append_ne_nil ?_
      cases signaling <;> simp
  | finite negative coefficient exponent =>
      rw [Number.Decimal.text]
      refine append_ne_nil ?_
      split
      · split
        · simp
        · exact withPoint_ne_nil (repr_ne_nil coefficient) _
      · simp

theorem digits_ne_nil (d : Number.Digits) : d.text.toList ≠ [] := by
  simp only [Number.Digits.text]
  split
  · split
    · exact append_ne_nil (by decide)
    · exact withPoint_ne_nil (repr_ne_nil d.digits) _
  · simp

theorem float_ne_nil (x : Float) : (Number.floatText x).toList ≠ [] := by
  unfold Number.floatText
  cases Number.Binary64.ofFloat x with
  | nan => decide
  | infinite negative => exact append_ne_nil (by decide)
  | finite negative m q =>
      rw [Number.Binary64.text]
      refine append_ne_nil ?_
      split
      · decide
      · exact digits_ne_nil (Number.shortest m q)

/-! ## Trimming -/

theorem trimStartChars_of_head {c : Char} {cs : List Char} (h : isBlank c = false) :
    trimStartChars (c :: cs) = c :: cs :=
  List.dropWhile_cons_of_neg (by simp [h])

theorem trimStartChars_blank {c : Char} {cs : List Char} (h : isBlank c = true) :
    trimStartChars (c :: cs) = trimStartChars cs :=
  List.dropWhile_cons_of_pos h

theorem trimEndChars_of_last {c : Char} {cs : List Char} (h : isBlank c = false) :
    trimEndChars (cs ++ [c]) = cs ++ [c] := by
  simp [trimEndChars, h]

theorem trimEndChars_blank {c : Char} {cs : List Char} (h : isBlank c = true) :
    trimEndChars (cs ++ [c]) = trimEndChars cs := by
  simp [trimEndChars, h]

theorem Solid.trimStartChars_append {cs : List Char} (h : Solid cs) (ds : List Char) :
    trimStartChars (cs ++ ds) = cs ++ ds := by
  cases cs with
  | nil => exact absurd rfl h.nonempty
  | cons c cs => exact trimStartChars_of_head (h.head c rfl)

theorem Solid.trimEndChars_append {cs : List Char} (h : Solid cs) (ds : List Char) :
    trimEndChars (ds ++ cs) = ds ++ cs := by
  obtain ⟨c, hc⟩ := List.getLast?_isSome.mpr h.nonempty |> Option.isSome_iff_exists.mp
  obtain ⟨init, rfl⟩ := List.getLast?_eq_some_iff.mp hc
  rw [← List.append_assoc]
  exact trimEndChars_of_last (h.last c hc)

end QueryClient.Text
