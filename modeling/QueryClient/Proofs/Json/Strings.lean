import QueryClient.Json.Reader
import QueryClient.Proofs.Json.Notation

/-!
# Strings in JSON

A string is read letter by letter, each as the character it stands for, up to the closing quote. An
escape with four digits is looked at together with the next one, as the two may be a pair.
-/

namespace QueryClient.Json

/-! ## Strings -/

theorem stringRest_close (cs : List Char) : stringRest ('"' :: cs) = some ([], cs) := by
  rw [stringRest]

theorem stringRest_plain {c : Char} (h : ' ' ≤ c ∧ c ≠ '"' ∧ c ≠ '\\') (cs : List Char) :
    stringRest (c :: cs) = prepend c (stringRest cs) := by
  obtain ⟨hcontrol, hquote, hbackslash⟩ := h
  have hlt : ¬c < ' ' := Char.not_lt.mpr hcontrol
  rw [stringRest]
  · rw [if_neg hlt]
  · exact hquote
  · intros; exact hbackslash ‹_›
  · intros; exact hbackslash ‹_›
  · intros; exact hbackslash ‹_›

theorem escaped?_of_mem {mark c : Char} (h : (mark, c) ∈ shortEscapes) :
    mark ≠ 'u' ∧ escaped? mark = some c := by
  have hall : ∀ e ∈ shortEscapes, e.1 ≠ 'u' ∧ escaped? e.1 = some e.2 := by decide
  exact hall _ h

theorem stringRest_short {mark c : Char} (h : (mark, c) ∈ shortEscapes) (cs : List Char) :
    stringRest ('\\' :: mark :: cs) = prepend c (stringRest cs) := by
  obtain ⟨hmark, hescaped⟩ := escaped?_of_mem h
  rw [stringRest]
  · rw [hescaped]
  · intros; exact hmark ‹_›
  · intros; exact hmark ‹_›

theorem hexValue?_hexDigit {n : Nat} (h : n < 16) (upper : Bool) :
    hexValue? (hexDigit upper n) = some n := by
  have hall : ∀ (n : Fin 16) (upper : Bool), hexValue? (hexDigit upper n) = some n.val := by decide
  exact hall ⟨n, h⟩ upper

theorem unit?_hexDigit {n : Nat} (h : n < 0x10000) (upper : Nat → Bool) :
    unit? (hexDigit (upper 0) (n / 4096)) (hexDigit (upper 1) (n / 256 % 16))
      (hexDigit (upper 2) (n / 16 % 16)) (hexDigit (upper 3) (n % 16)) = some n := by
  simp only [unit?, hexValue?_hexDigit (show n / 4096 < 16 by omega),
    hexValue?_hexDigit (Nat.mod_lt _ (show 16 > 0 by decide)), Option.bind_eq_bind,
    Option.bind_some, Option.pure_def, Option.some.injEq]
  omega

/-- A number that is no half of a pair stands for its character. -/
theorem stringRest_hexEscape {n : Nat} (h : n < 0x10000) (hhigh : isHighHalf n = false)
    (upper : Nat → Bool) (cs : List Char) :
    stringRest (hexEscape upper n ++ cs) = prepend (unitChar n) (stringRest cs) := by
  have hunit := unit?_hexDigit h upper
  simp only [hexEscape, List.cons_append, List.nil_append]
  rw [stringRest.eq_def]
  split
  · rename_i heq; cases heq
  · rename_i heq; cases heq
  · rename_i heq
    cases heq
    rw [hunit]
    split
    · rename_i heq _
      cases heq
      rw [hhigh]
      rfl
    · rename_i heq _
      cases heq
      rfl
    · rename_i heq
      cases heq
  · rename_i heq
    cases heq
    rw [hunit]
  · rename_i hno heq
    cases heq
    exact (hno _ _ _ _ _ rfl rfl).elim
  · rename_i hno heq
    cases heq
    exact (hno _ _ rfl rfl).elim

/-- The two halves of a pair stand for one character. -/
theorem stringRest_pair {high low : Nat} (hhigh : isHighHalf high = true)
    (hlow : isLowHalf low = true) (upper upper' : Nat → Bool) (cs : List Char) :
    stringRest (hexEscape upper high ++ (hexEscape upper' low ++ cs))
      = prepend (pairChar high low) (stringRest cs) := by
  simp only [isHighHalf, isLowHalf, Bool.and_eq_true, decide_eq_true_eq] at hhigh hlow
  have hunit := unit?_hexDigit (show high < 0x10000 by omega) upper
  have hunit' := unit?_hexDigit (show low < 0x10000 by omega) upper'
  simp only [hexEscape, List.cons_append, List.nil_append]
  rw [stringRest, hunit, hunit']
  simp [isHighHalf, isLowHalf, *]

theorem stringRest_letter (l : Letter) (cs : List Char) :
    stringRest (l.text ++ cs) = prepend l.value (stringRest cs) := by
  cases l with
  | plain c h => exact stringRest_plain h cs
  | short mark c h => exact stringRest_short h cs
  | coded c upper =>
      have hvalid : c.toNat < 0xd800 ∨ 0xdfff < c.toNat ∧ c.toNat < 0x110000 := c.valid
      simp only [Letter.text, Letter.value]
      split
      · rename_i hsmall
        have hhigh : isHighHalf c.toNat = false := by
          simp only [isHighHalf, Bool.and_eq_false_iff, decide_eq_false_iff_not]; omega
        have hlow : isLowHalf c.toNat = false := by
          simp only [isLowHalf, Bool.and_eq_false_iff, decide_eq_false_iff_not]; omega
        have hchar : unitChar c.toNat = c := by
          simp [unitChar, hhigh, hlow]
        rw [stringRest_hexEscape hsmall hhigh, hchar]
      · rename_i hlarge
        have hhigh : isHighHalf (0xd800 + (c.toNat - 0x10000) / 0x400) = true := by
          simp only [isHighHalf, Bool.and_eq_true, decide_eq_true_eq]; omega
        have hlow : isLowHalf (0xdc00 + (c.toNat - 0x10000) % 0x400) = true := by
          simp only [isLowHalf, Bool.and_eq_true, decide_eq_true_eq]; omega
        have hchar : pairChar (0xd800 + (c.toNat - 0x10000) / 0x400)
            (0xdc00 + (c.toNat - 0x10000) % 0x400) = c := by
          have hnumber : 0x10000 + (0xd800 + (c.toNat - 0x10000) / 0x400 - 0xd800) * 0x400
              + (0xdc00 + (c.toNat - 0x10000) % 0x400 - 0xdc00) = c.toNat := by omega
          rw [pairChar, hnumber, Char.ofNat_toNat]
        rw [List.append_assoc, stringRest_pair hhigh hlow, hchar]

theorem stringRest_letters (letters : List Letter) (cs : List Char) :
    stringRest (letters.flatMap Letter.text ++ '"' :: cs)
      = some (letters.map Letter.value, cs) := by
  induction letters with
  | nil => exact stringRest_close cs
  | cons l letters ih =>
      rw [List.flatMap_cons, List.append_assoc, stringRest_letter, ih]
      rfl

/-! ## Strings with more behind them -/

theorem prepend_eq_some {c : Char} {read? : Option (List Char × List Char)}
    {read : List Char × List Char} (h : prepend c read? = some read) :
    ∃ cs rest, read? = some (cs, rest) ∧ read = (c :: cs, rest) := by
  obtain ⟨⟨cs, rest⟩, hread, heq⟩ := Option.map_eq_some_iff.mp h
  exact ⟨cs, rest, hread, heq.symm⟩

/-- A string that is cut off in the middle of four digits has no end. -/
theorem stringRest_cut {cs more tail : List Char} {e f g h : Char}
    (hno : ∀ e f g h rest, cs = '\\' :: 'u' :: e :: f :: g :: h :: rest → False)
    (hcut : cs ++ more = '\\' :: 'u' :: e :: f :: g :: h :: tail) : stringRest cs = none := by
  rcases cs with _ | ⟨c, cs⟩
  · rw [stringRest]
  · cases (List.cons.inj hcut).1
    rcases cs with _ | ⟨c, cs⟩
    · rw [stringRest, if_neg (by decide), stringRest]
      · rfl
      all_goals simp
    · cases (List.cons.inj (List.cons.inj hcut).2).1
      have hescaped : escaped? 'u' = none := by decide
      rw [stringRest]
      · rw [hescaped]
      · rintro a b c d e f g h rest - rfl
        exact hno _ _ _ _ _ rfl
      · rintro a b c d rest - rfl
        exact hno _ _ _ _ _ rfl

/-- A backslash alone at the end belongs to no string that has an end. -/
theorem ne_backslash_of_read {c : Char} {cs : List Char} {read : List Char × List Char}
    (hno : ∀ mark rest, c = '\\' → cs = mark :: rest → False) (h : stringRest cs = some read) :
    c ≠ '\\' := by
  rintro rfl
  rcases cs with _ | ⟨mark, rest⟩
  · rw [stringRest] at h
    cases h
  · exact hno _ _ rfl rfl

/-- A string that has an end is read the same with more behind it. -/
theorem stringRest_append {cs : List Char} {read : List Char × List Char}
    (h : stringRest cs = some read) (more : List Char) :
    stringRest (cs ++ more) = some (read.1, read.2 ++ more) := by
  fun_induction stringRest cs generalizing read with
  | case1 | case6 | case8 | case10 | case11 => cases h
  | case2 rest =>
      cases h
      exact stringRest_close _
  | case3 a b c d e f g h' rest high low hlow hhigh hpair ih =>
      obtain ⟨cs, rest', hread, rfl⟩ := prepend_eq_some h
      simp only [List.cons_append]
      rw [stringRest, hlow, hhigh]
      simp only
      rw [if_pos hpair, ih hread]
      rfl
  | case4 a b c d e f g h' rest high low hlow hhigh hpair ih =>
      obtain ⟨cs, rest', hread, rfl⟩ := prepend_eq_some h
      simp only [List.cons_append] at ih ⊢
      rw [stringRest, hlow, hhigh]
      simp only
      rw [if_neg hpair, ih hread]
      rfl
  | case5 a b c d e f g h' rest n hnone hunit ih =>
      obtain ⟨cs, rest', hread, rfl⟩ := prepend_eq_some h
      simp only [List.cons_append] at ih ⊢
      rw [stringRest, hnone, hunit]
      simp only
      rw [ih hread]
      rfl
  | case7 a b c d rest hno n hunit ih =>
      obtain ⟨cs, rest', hread, rfl⟩ := prepend_eq_some h
      simp only [List.cons_append]
      rw [stringRest]
      · rw [hunit, ih hread]
        rfl
      · intro e f g h tail hcut
        rw [stringRest_cut hno hcut] at hread
        cases hread
  | case9 mark rest hno hno' c hescaped ih =>
      obtain ⟨cs, rest', hread, rfl⟩ := prepend_eq_some h
      have hmark : mark ≠ 'u' := by
        rintro rfl
        cases hescaped.symm.trans (show escaped? 'u' = none by decide)
      simp only [List.cons_append]
      rw [stringRest]
      · rw [hescaped, ih hread]
        rfl
      · intros; exact hmark ‹_›
      · intros; exact hmark ‹_›
  | case12 c rest hquote _ _ hno hcontrol ih =>
      obtain ⟨cs, rest', hread, rfl⟩ := prepend_eq_some h
      have hbackslash : c ≠ '\\' := ne_backslash_of_read hno hread
      rw [List.cons_append, stringRest_plain ⟨Char.not_lt.mp hcontrol, hquote, hbackslash⟩,
        ih hread]
      rfl

end QueryClient.Json
