import QueryClient.Proofs.Json.Reading

/-!
# Documents with more behind them

The reader does not look ahead: what it read, it reads again when more text is behind it and when
it may take more steps. A number is the exception, for another digit would belong to it. So an
object that is cut off cannot be read, as its whole text could not be read then.
-/

namespace QueryClient.Json

/-! ## White space -/

theorem skipSpace_append {cs rest : List Char} {c : Char} (h : skipSpace cs = c :: rest)
    (more : List Char) : skipSpace (cs ++ more) = c :: (rest ++ more) := by
  induction cs with
  | nil => cases h
  | cons c' cs ih =>
      unfold skipSpace at h ih ⊢
      rw [List.cons_append]
      cases hc : isSpace c' with
      | true =>
          rw [List.dropWhile_cons_of_pos hc] at h ⊢
          exact ih h
      | false =>
          rw [List.dropWhile_cons_of_neg (by simp [hc])] at h ⊢
          rw [← List.cons_append, ← List.cons_append, h]

theorem skipSpace_append_of_ne {cs : List Char} (h : skipSpace cs ≠ []) (more : List Char) :
    skipSpace (cs ++ more) = skipSpace cs ++ more := by
  obtain ⟨c, rest, hskip⟩ := List.exists_cons_of_ne_nil h
  rw [skipSpace_append hskip, hskip]
  rfl

/-- What separates elements ends a number, with white space in front or without. -/
theorem stops_of_skipSpace {cs rest : List Char} {c : Char} (h : skipSpace cs = c :: rest)
    (hc : c ∈ [',', ']', '\x7d']) : cs ≠ [] ∧ Stops cs := by
  cases cs with
  | nil => cases h
  | cons c' cs =>
      refine ⟨List.cons_ne_nil _ _, ?_⟩
      cases hspace : isSpace c' with
      | true =>
          intro first hfirst
          cases hfirst
          simp only [isSpace, Bool.or_eq_true, beq_iff_eq] at hspace
          rcases hspace with ((rfl | rfl) | rfl) | rfl <;> decide
      | false =>
          rw [skipSpace_of_head hspace] at h
          cases h
          exact stops_closing hc rest

/-! ## Scalars -/

theorem scalar_of_head {c : Char} (h : c ∉ ['n', 't', 'f']) (cs : List Char) :
    scalar (c :: cs) = (namedNumber? (c :: cs)).orElse fun _ => number (c :: cs) := by
  simp only [List.mem_cons, List.not_mem_nil, or_false, not_or] at h
  rw [scalar]
  · intro rest heq; exact h.1 (List.cons.inj heq).1
  · intro rest heq; exact h.2.1 (List.cons.inj heq).1
  · intro rest heq; exact h.2.2 (List.cons.inj heq).1

theorem namedNumber?_append {cs rest : List Char} {d : Document}
    (h : namedNumber? cs = some (d, rest)) (more : List Char) :
    (∃ c cs', cs = c :: cs' ∧ c ∉ ['n', 't', 'f'])
      ∧ namedNumber? (cs ++ more) = some (d, rest ++ more) := by
  unfold namedNumber? at h
  split at h
  · cases h; exact ⟨⟨_, _, rfl, by decide⟩, rfl⟩
  · cases h; exact ⟨⟨_, _, rfl, by decide⟩, rfl⟩
  · cases h; exact ⟨⟨_, _, rfl, by decide⟩, rfl⟩
  · cases h

theorem exists_digit_of_unsigned {negative : Bool} {cs rest : List Char} {d : Document}
    (h : unsigned negative cs = some (d, rest)) : ∃ c cs', cs = c :: cs' ∧ isDigit c = true := by
  cases cs with
  | nil => cases h
  | cons c cs =>
      cases hc : isDigit c with
      | true => exact ⟨c, cs, rfl, hc⟩
      | false =>
          have hwhole : wholePart (c :: cs) = [] := by
            unfold wholePart
            split
            · rename_i heq
              cases heq
              cases hc
            · exact List.takeWhile_cons_of_neg (by simp [hc])
          simp only [unsigned, hwhole] at h
          cases h

/-- A number begins with a digit, or with a minus and a digit. -/
theorem head_of_number {cs rest : List Char} {d : Document} (h : number cs = some (d, rest)) :
    ∃ c cs', isDigit c = true ∧ (cs = c :: cs' ∨ cs = '-' :: c :: cs') := by
  unfold number at h
  split at h
  · obtain ⟨c, cs', rfl, hc⟩ := exists_digit_of_unsigned h
    exact ⟨c, cs', hc, .inr rfl⟩
  · obtain ⟨c, cs', rfl, hc⟩ := exists_digit_of_unsigned h
    exact ⟨c, cs', hc, .inl rfl⟩

theorem namedNumber?_of_number {cs rest : List Char} {d : Document}
    (h : number cs = some (d, rest)) (more : List Char) :
    (∃ c cs', cs = c :: cs' ∧ c ∉ ['n', 't', 'f']) ∧ namedNumber? (cs ++ more) = none := by
  have hletters : ∀ c ∈ ['n', 't', 'f', 'N', 'I', '-'], isDigit c = false := by decide
  obtain ⟨c, cs', hc, hcs⟩ := head_of_number h
  have hne : c ∉ ['n', 't', 'f', 'N', 'I', '-'] := by
    intro hmem
    rw [hletters c hmem] at hc
    cases hc
  simp only [List.mem_cons, List.not_mem_nil, or_false, not_or] at hne
  obtain ⟨hn, ht, hf, hN, hI, hminus⟩ := hne
  rcases hcs with rfl | rfl
  · exact ⟨⟨c, cs', rfl, by simp [hn, ht, hf]⟩, by simp [namedNumber?, hN, hI, hminus]⟩
  · exact ⟨⟨'-', _, rfl, by decide⟩, by simp [namedNumber?, hI]⟩

/-- A constant, or a number that something ends, is read the same with more behind it. -/
theorem scalar_append {cs rest : List Char} {d : Document} (h : scalar cs = some (d, rest))
    (hstops : rest ≠ [] ∧ Stops rest) (more : List Char) :
    scalar (cs ++ more) = some (d, rest ++ more) := by
  unfold scalar at h
  split at h
  · cases h; rfl
  · cases h; rfl
  · cases h; rfl
  · cases hnamed : namedNumber? cs with
    | some read =>
        rw [hnamed, Option.orElse_some] at h
        cases h
        obtain ⟨⟨c, cs', rfl, hc⟩, hread⟩ := namedNumber?_append hnamed more
        rw [List.cons_append] at hread ⊢
        rw [scalar_of_head hc, hread]
        rfl
    | none =>
        rw [hnamed, Option.orElse_none] at h
        obtain ⟨⟨c, cs', rfl, hc⟩, hnone⟩ := namedNumber?_of_number h more
        have hread := number_append h hstops.1 hstops.2 more
        rw [List.cons_append] at hread hnone ⊢
        rw [scalar_of_head hc, hnone]
        exact hread

/-! ## Documents -/

theorem append_ne_cons {cs : List Char} {c : Char} (hne : cs ≠ [])
    (hno : ∀ rest, cs = c :: rest → False) (more rest : List Char) : cs ++ more ≠ c :: rest := by
  obtain ⟨c', cs', rfl⟩ := List.exists_cons_of_ne_nil hne
  intro h
  exact hno cs' (by rw [(List.cons.inj h).1])

theorem ne_nil_of_document {fuel : Nat} {cs : List Char} {read : Document × List Char}
    (h : document fuel cs = some read) : cs ≠ [] := by
  rintro rfl
  cases fuel <;> cases h

theorem ne_nil_of_elements {fuel : Nat} {cs : List Char} {read : List Document × List Char}
    (h : elements fuel cs = some read) : cs ≠ [] := by
  cases fuel with
  | zero => cases h
  | succ fuel =>
      rw [elements] at h
      split at h
      · cases h
      · exact ne_nil_of_document ‹_›

theorem ne_nil_of_members {fuel : Nat} {before : List (String × Document)} {cs : List Char}
    {read : List (String × Document) × List Char} (h : members fuel before cs = some read) :
    cs ≠ [] := by
  rintro rfl
  cases fuel <;> cases h

mutual

/-- What is read is read the same with more behind it and with more steps. A document that is no
object is to be followed by something that ends it, as another digit could belong to it. -/
theorem document_append : {fuel fuel' : Nat} → fuel ≤ fuel' → {cs rest : List Char} →
    {d : Document} → document fuel cs = some (d, rest) →
    cs.head? = some '\x7b' ∨ rest ≠ [] ∧ Stops rest →
    (more : List Char) → document fuel' (cs ++ more) = some (d, rest ++ more)
  | _, _, _, [], rest, d, h, _, _ => absurd rfl (ne_nil_of_document h)
  | 0, _, _, c :: cs, rest, d, h, _, _ => by cases h
  | fuel + 1, fuel' + 1, hle, c :: cs, rest, d, h, hends, more => by
      rw [List.cons_append]
      by_cases hquote : c = '"'
      · subst hquote
        rw [document] at h
        obtain ⟨⟨letters, behind⟩, hread, heq⟩ := Option.map_eq_some_iff.mp h
        cases heq
        exact document_string (stringRest_append hread more)
      by_cases hbracket : c = '['
      · subst hbracket
        rw [document] at h
        split at h
        · rename_i behind hskip
          cases h
          exact document_emptyArray (skipSpace_append hskip more)
        · rename_i hno
          obtain ⟨⟨items, behind⟩, hread, heq⟩ := Option.map_eq_some_iff.mp h
          cases heq
          have hne : skipSpace cs ≠ [] := ne_nil_of_elements hread
          have hread' := elements_append (Nat.le_of_succ_le_succ hle) hread more
          rw [← skipSpace_append_of_ne hne] at hread'
          refine document_array (fun tail => ?_) hread'
          rw [skipSpace_append_of_ne hne]
          exact append_ne_cons hne hno more tail
      by_cases hbrace : c = '\x7b'
      · subst hbrace
        rw [document] at h
        split at h
        · rename_i behind hskip
          cases h
          exact document_emptyObject (skipSpace_append hskip more)
        · rename_i hno
          obtain ⟨⟨ms, behind⟩, hread, heq⟩ := Option.map_eq_some_iff.mp h
          cases heq
          have hne : skipSpace cs ≠ [] := ne_nil_of_members hread
          have hread' := members_append (Nat.le_of_succ_le_succ hle) hread more
          rw [← skipSpace_append_of_ne hne] at hread'
          refine document_object (fun tail => ?_) hread'
          rw [skipSpace_append_of_ne hne]
          exact append_ne_cons hne hno more tail
      · rw [document_scalar ⟨hquote, hbracket, hbrace⟩] at h ⊢
        have hstops : rest ≠ [] ∧ Stops rest := by
          rcases hends with hhead | hstops
          · exact absurd (Option.some.inj hhead) hbrace
          · exact hstops
        exact scalar_append h hstops more

theorem elements_append : {fuel fuel' : Nat} → fuel ≤ fuel' → {cs rest : List Char} →
    {items : List Document} → elements fuel cs = some (items, rest) →
    (more : List Char) → elements fuel' (cs ++ more) = some (items, rest ++ more)
  | 0, _, _, cs, rest, items, h, _ => by cases h
  | fuel + 1, fuel' + 1, hle, cs, rest, items, h, more => by
      have hle' : fuel ≤ fuel' := Nat.le_of_succ_le_succ hle
      rw [elements] at h
      split at h
      · cases h
      · rename_i item behind hitem
        split at h
        · rename_i tail hskip
          obtain ⟨⟨items, _⟩, hitems, heq⟩ := Option.map_eq_some_iff.mp h
          cases heq
          have hne : skipSpace tail ≠ [] := ne_nil_of_elements hitems
          have hitem' := document_append hle' hitem
            (.inr (stops_of_skipSpace hskip (by decide))) more
          have hitems' := elements_append hle' hitems more
          rw [← skipSpace_append_of_ne hne] at hitems'
          exact elements_more hitem' (skipSpace_append hskip more) hitems'
        · rename_i tail hskip
          cases h
          have hitem' := document_append hle' hitem
            (.inr (stops_of_skipSpace hskip (by decide))) more
          exact elements_last hitem' (skipSpace_append hskip more)
        · cases h

theorem members_append : {fuel fuel' : Nat} → fuel ≤ fuel' → {cs rest : List Char} →
    {before ms : List (String × Document)} → members fuel before cs = some (ms, rest) →
    (more : List Char) → members fuel' before (cs ++ more) = some (ms, rest ++ more)
  | 0, _, _, cs, rest, before, ms, h, _ => by cases h
  | fuel + 1, fuel' + 1, hle, cs, rest, before, ms, h, more => by
      have hle' : fuel ≤ fuel' := Nat.le_of_succ_le_succ hle
      unfold members at h
      split at h
      · rename_i name
        split at h
        · cases h
        · rename_i letters afterName hname
          split at h
          · rename_i value hcolon
            split at h
            · cases h
            · rename_i item behind hitem
              have hvalue : skipSpace value ≠ [] := ne_nil_of_document hitem
              have hname' := stringRest_append hname more
              have hcolon' := skipSpace_append hcolon more
              simp only at h
              split at h
              · rename_i tail hskip
                have htail : skipSpace tail ≠ [] := ne_nil_of_members h
                have hitem' := document_append hle' hitem
                  (.inr (stops_of_skipSpace hskip (by decide))) more
                have hms' := members_append hle' h more
                rw [← skipSpace_append_of_ne hvalue] at hitem'
                rw [← skipSpace_append_of_ne htail] at hms'
                exact members_more hname' hcolon' hitem' (skipSpace_append hskip more) hms'
              · rename_i tail hskip
                cases h
                have hitem' := document_append hle' hitem
                  (.inr (stops_of_skipSpace hskip (by decide))) more
                rw [← skipSpace_append_of_ne hvalue] at hitem'
                exact members_last hname' hcolon' hitem' (skipSpace_append hskip more)
              · cases h
          · cases h
      · cases h

end

/-! ## Objects that are cut off -/

theorem Written.head_of_isObject {w : Written} (h : w.isObject = true) :
    ∃ cs, w.chars = '\x7b' :: cs := by
  cases w with
  | emptyObject inside => exact ⟨_, rfl⟩
  | object before members => exact ⟨_, rfl⟩
  | null | bool b | number n | text letters | emptyArray inside | array before items => cases h

/-- An object that is cut off anywhere is no document. -/
theorem read?_cut {w : Written} (h : w.isObject = true) (before : Gap) {front back : List Char}
    (hcut : w.chars = front ++ back) (hback : back ≠ []) :
    read? (String.ofList (before.chars ++ front)) = none := by
  cases front with
  | nil =>
      have hskip := skipSpace_gap before []
      rw [read?, String.toList_ofList, hskip]
      rfl
  | cons c front =>
      obtain ⟨cs, hcs⟩ := Written.head_of_isObject h
      have hc : c = '\x7b' := by
        rw [hcs] at hcut
        exact (List.cons.inj hcut).1.symm
      subst hc
      rw [read?, String.length_ofList, String.toList_ofList, skipSpace_gap_cons before (by decide)]
      split
      · rename_i d rest hread
        -- With the rest of the object behind it, the same would be read and something left over.
        have hmore := document_append (Nat.le_add_right _ (2 * w.chars.length)) hread (.inl rfl)
          back
        have hwhole := document_chars w (Nat.le_add_left (2 * w.chars.length)
          (2 * (before.chars ++ '\x7b' :: front).length + 2)) stops_nil
        rw [← hcut] at hmore
        rw [List.append_nil, hmore] at hwhole
        have hnil := (Prod.mk.inj (Option.some.inj hwhole)).2
        exact absurd (List.append_eq_nil_iff.mp hnil).2 hback
      · rfl

end QueryClient.Json
