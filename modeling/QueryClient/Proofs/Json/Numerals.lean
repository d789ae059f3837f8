import QueryClient.Json.Reader
import QueryClient.Proofs.Json.Notation
import QueryClient.Proofs.Text.Padding

/-!
# Numbers in JSON

A number that is written is read to its end, provided that nothing follows that could belong to it,
and what is read is its value.
-/

namespace QueryClient.Json

/-! ## Digits -/

theorem isDigit_digitChar (d : Fin 10) : isDigit (digitChar d) = true := by
  revert d; decide

theorem isDecimalDigit_digitChar (d : Fin 10) : Number.isDecimalDigit (digitChar d) = true := by
  revert d; decide

theorem decimalValue?_digitChar (d : Fin 10) : Text.decimalValue? (digitChar d) = some d.val := by
  revert d; decide

theorem eq_zero_of_digitChar {d : Fin 10} (h : digitChar d = '0') : d = 0 := by
  revert d; decide

/-- Characters that begin or separate something else. -/
def undigits : List Char :=
  ['-', '+', '_', '.', 'e', 'E', 'i', 'n', 's', 't', 'f', 'N', 'I', '"', '[', '\x7b']

theorem digitChar_ne (d : Fin 10) : ∀ c ∈ undigits, digitChar d ≠ c := by
  revert d; decide

theorem isBlank_digitChar (d : Fin 10) : Text.isBlank (digitChar d) = false := by
  revert d; decide

theorem toLower_digitChar (d : Fin 10) : (digitChar d).toLower = digitChar d := by
  revert d; decide

theorem digitsValue?_digits {ds : List (Fin 10)} (h : ds ≠ []) :
    Number.digitsValue? (ds.map digitChar) = some (digitsNumber ds) := by
  have hfold (ds : List (Fin 10)) (n : Nat) :
      (ds.map digitChar).foldl
          (fun acc c => do return (← acc) * 10 + (← Text.decimalValue? c)) (some n)
        = some (ds.foldl (fun (n : Nat) (d : Fin 10) => n * 10 + d.val) n) := by
    induction ds generalizing n with
    | nil => rfl
    | cons d ds ih =>
        rw [List.map_cons, List.foldl_cons, decimalValue?_digitChar]
        exact ih (n * 10 + d.val)
  rw [Number.digitsValue?, if_neg (by simpa using h), hfold]
  rfl

theorem takeWhile_digits {p : Char → Bool} (hp : ∀ d, p (digitChar d) = true) {rest : List Char}
    (hrest : ∀ c ∈ rest.head?, p c = false) (ds : List (Fin 10)) :
    (ds.map digitChar ++ rest).takeWhile p = ds.map digitChar
      ∧ (ds.map digitChar ++ rest).dropWhile p = rest := by
  refine Text.takeWhile_append_run (fun c hc => ?_) hrest
  obtain ⟨d, -, rfl⟩ := List.mem_map.mp hc
  exact hp d

/-! ## The parts of a number -/

/-- Nothing stands in front that could belong to a number. -/
def Stops (cs : List Char) : Prop :=
  ∀ c ∈ cs.head?, isDigit c = false ∧ c ∉ ['.', 'e', 'E']

theorem Stops.digit {cs : List Char} (h : Stops cs) : ∀ c ∈ cs.head?, isDigit c = false :=
  fun c hc => (h c hc).1

theorem wholePart_digits (n : Numeral) {rest : List Char}
    (hrest : ∀ c ∈ rest.head?, isDigit c = false) :
    wholePart (n.whole.map digitChar ++ rest) = n.whole.map digitChar := by
  rcases n.leads with hzero | ⟨d, ds, hd, hds⟩
  · rw [hzero]
    rfl
  · have htake := (takeWhile_digits isDigit_digitChar hrest n.whole).1
    have hne : digitChar d ≠ '0' := fun h => hd (eq_zero_of_digitChar h)
    rw [hds] at htake ⊢
    rw [List.map_cons, List.cons_append] at htake ⊢
    unfold wholePart
    split
    · rename_i heq
      exact absurd (List.cons.inj heq).1 hne
    · exact htake

theorem fractionPart_text (n : Numeral) {rest : List Char}
    (hrest : ∀ c ∈ rest.head?, isDigit c = false ∧ c ≠ '.') :
    fractionPart (n.fractionText ++ rest) = n.fractionText := by
  unfold Numeral.fractionText
  split
  · rename_i hnone
    rw [List.nil_append]
    unfold fractionPart
    split
    · exact absurd rfl (hrest _ rfl).2
    · rfl
  · rename_i hsome
    have htake := (takeWhile_digits isDigit_digitChar (fun c hc => (hrest c hc).1) n.fraction).1
    simp [fractionPart, htake, hsome]

theorem exponentPart_text (e : Exponent) {rest : List Char}
    (hrest : ∀ c ∈ rest.head?, isDigit c = false) :
    exponentPart (e.text ++ rest) = e.text := by
  have htake := (takeWhile_digits isDigit_digitChar hrest e.digits).1
  have hsign : signPart (e.signChars ++ (e.digits.map digitChar ++ rest)) = e.signChars := by
    unfold Exponent.signChars
    rcases e.sign with _ | _ | _
    · obtain ⟨d, ds, hds⟩ := List.exists_cons_of_ne_nil e.digits_ne_nil
      have hplus := digitChar_ne d '+' (by decide)
      have hminus := digitChar_ne d '-' (by decide)
      simp [hds, hplus, hminus, signPart]
    · rfl
    · rfl
  have hdigits : ((e.signChars ++ (e.digits.map digitChar ++ rest)).drop
      e.signChars.length).takeWhile isDigit = e.digits.map digitChar := by
    rw [List.drop_left, htake]
  unfold Exponent.text
  rw [List.cons_append, List.append_assoc]
  unfold exponentPart
  simp only [hsign, hdigits]
  cases e.upper <;> simp [e.digits_ne_nil]

theorem exponentPart_none {rest : List Char} (hrest : Stops rest) : exponentPart rest = [] := by
  cases rest with
  | nil => rfl
  | cons c rest =>
      have hc := (hrest c rfl).2
      simp only [List.mem_cons, List.not_mem_nil, or_false, not_or] at hc
      simp [exponentPart, hc]

/-! ## Texts of numbers -/

/-- A character that reading a number neither trims nor leaves out. -/
def Kept (c : Char) : Prop :=
  Text.isBlank c = false ∧ c ≠ '_'

theorem kept_digits (ds : List (Fin 10)) : ∀ c ∈ ds.map digitChar, Kept c := by
  intro c hc
  obtain ⟨d, -, rfl⟩ := List.mem_map.mp hc
  exact ⟨isBlank_digitChar d, digitChar_ne d '_' (by decide)⟩

theorem Numeral.kept_sign (n : Numeral) : ∀ c ∈ n.signChars, Kept c := by
  unfold Numeral.signChars Kept
  cases n.negative <;> decide

theorem Numeral.kept_fraction (n : Numeral) : ∀ c ∈ n.fractionText, Kept c := by
  unfold Numeral.fractionText
  split
  · simp
  · rw [List.forall_mem_cons]
    exact ⟨⟨by decide, by decide⟩, kept_digits n.fraction⟩

theorem Exponent.kept_sign (e : Exponent) : ∀ c ∈ e.signChars, Kept c := by
  unfold Exponent.signChars Kept
  rcases e.sign with _ | _ | _ <;> decide

theorem Numeral.kept_exponent (n : Numeral) : ∀ c ∈ n.exponentText, Kept c := by
  unfold Numeral.exponentText
  rcases n.exponent with _ | e
  · simp
  · simp only [Option.elim_some, Exponent.text, List.forall_mem_cons, List.forall_mem_append]
    refine ⟨?_, e.kept_sign, kept_digits e.digits⟩
    cases e.upper <;> exact ⟨by decide, by decide⟩

theorem Numeral.kept_text (n : Numeral) : ∀ c ∈ n.text, Kept c := by
  simp only [Numeral.text, List.forall_mem_append]
  exact ⟨⟨⟨n.kept_sign, kept_digits n.whole⟩, n.kept_fraction⟩, n.kept_exponent⟩

theorem underscoresPlaced_of_kept {cs : List Char} (h : ∀ c ∈ cs, Kept c) (afterDigit : Bool) :
    Number.underscoresPlaced afterDigit cs = true := by
  induction cs generalizing afterDigit with
  | nil => rfl
  | cons c cs ih =>
      rw [List.forall_mem_cons] at h
      rw [Number.underscoresPlaced]
      · exact ih h.2 _
      · intros; exact h.1.2 ‹_›
      · intros; exact h.1.2 ‹_›

/-- A number is read with all its characters. -/
theorem numeralChars?_of_kept {cs : List Char} (hne : cs ≠ []) (h : ∀ c ∈ cs, Kept c) :
    Number.numeralChars? (String.ofList cs) = some cs := by
  have hsolid : Text.Solid cs := Text.Unblank.solid (fun c hc => (h c hc).1) hne
  have htrim : Text.trimChars cs = cs := by
    have hstart := hsolid.trimStartChars_append []
    have hend := hsolid.trimEndChars_append []
    rw [List.append_nil] at hstart
    rw [Text.trimChars, hstart]
    exact hend
  have hfilter : cs.filter (· != '_') = cs :=
    List.filter_eq_self.mpr fun c hc => bne_iff_ne.mpr (h c hc).2
  rw [Number.numeralChars?, String.toList_ofList, htrim, if_pos (underscoresPlaced_of_kept h _),
    hfilter]

/-! ## Values -/

theorem Numeral.exists_whole (n : Numeral) : ∃ d ds, n.whole = d :: ds := by
  rcases n.leads with h | ⟨d, ds, -, h⟩
  · exact ⟨_, _, h⟩
  · exact ⟨d, ds, h⟩

theorem Numeral.whole_ne_nil (n : Numeral) : n.whole ≠ [] := by
  obtain ⟨d, ds, h⟩ := n.exists_whole
  rw [h]
  exact List.cons_ne_nil d ds

theorem splitSign_digits {ds : List (Fin 10)} (h : ds ≠ []) (rest : List Char) :
    Number.splitSign (ds.map digitChar ++ rest) = (false, ds.map digitChar ++ rest) := by
  obtain ⟨d, ds, rfl⟩ := List.exists_cons_of_ne_nil h
  rw [List.map_cons, List.cons_append, Number.splitSign]
  · intro rest hcons
    exact digitChar_ne d '-' (by decide) (List.cons.inj hcons).1
  · intro rest hcons
    exact digitChar_ne d '+' (by decide) (List.cons.inj hcons).1

theorem Numeral.splitSign_sign (n : Numeral) (rest : List Char) :
    Number.splitSign (n.signChars ++ (n.whole.map digitChar ++ rest))
      = (n.negative, n.whole.map digitChar ++ rest) := by
  unfold Numeral.signChars
  cases n.negative with
  | false => exact splitSign_digits n.whole_ne_nil rest
  | true => rfl

theorem signedDigits?_exponent (e : Exponent) :
    Number.signedDigits? (e.signChars ++ e.digits.map digitChar) = some e.value := by
  have hdigits := digitsValue?_digits e.digits_ne_nil
  unfold Number.signedDigits? Exponent.signChars Exponent.value
  rcases e.sign with _ | _ | _
  · have hsplit := splitSign_digits e.digits_ne_nil []
    rw [List.append_nil] at hsplit
    simp [hsplit, hdigits]
  · simp [Number.splitSign, hdigits]
  · simp [Number.splitSign, hdigits]

theorem Numeral.text_ne_nil (n : Numeral) : n.text ≠ [] := by
  simp [Numeral.text, n.whole_ne_nil]

theorem integerOfText?_text (n : Numeral) (hfraction : n.fraction = [])
    (hexponent : n.exponent = none) :
    Number.integerOfText? (String.ofList n.text)
      = some (if n.negative then -(digitsNumber n.whole : Int) else digitsNumber n.whole) := by
  have htext : n.text = n.signChars ++ (n.whole.map digitChar ++ []) := by
    simp [Numeral.text, Numeral.fractionText, Numeral.exponentText, hfraction, hexponent]
  rw [Number.integerOfText?, numeralChars?_of_kept n.text_ne_nil n.kept_text, htext]
  simp only [Option.bind_eq_bind, Option.bind_some, Number.signedDigits?, n.splitSign_sign]
  rw [List.append_nil, digitsValue?_digits n.whole_ne_nil]
  rfl

theorem Numeral.head_exponentText (n : Numeral) :
    ∀ c ∈ n.exponentText.head?, c = 'e' ∨ c = 'E' := by
  unfold Numeral.exponentText
  rcases n.exponent with _ | e
  · simp
  · cases hupper : e.upper <;> simp [Exponent.text, hupper]

theorem exponentValue?_text (n : Numeral) :
    Number.exponentValue? n.exponentText = some (n.exponent.elim 0 Exponent.value) := by
  unfold Numeral.exponentText
  rcases n.exponent with _ | e
  · rfl
  · simp only [Option.elim_some, Exponent.text]
    cases e.upper <;> exact signedDigits?_exponent e

theorem splitFraction_text (n : Numeral) :
    Number.splitFraction (n.fractionText ++ n.exponentText)
      = (n.fraction.map digitChar, n.exponentText) := by
  have hhead : ∀ c ∈ n.exponentText.head?, Number.isDecimalDigit c = false := by
    intro c hc
    rcases n.head_exponentText c hc with rfl | rfl <;> decide
  obtain ⟨htake, hdrop⟩ := takeWhile_digits isDecimalDigit_digitChar hhead n.fraction
  unfold Numeral.fractionText
  split
  · rename_i hnone
    rw [hnone, List.nil_append, Number.splitFraction]
    · rfl
    · intro rest hrest
      rcases n.head_exponentText '.' (by rw [hrest]; rfl) with h | h <;> cases h
  · rw [List.cons_append, Number.splitFraction, htake, hdrop]

theorem unsignedDecimal?_text (n : Numeral) :
    Number.unsignedDecimal? n.negative
        (n.whole.map digitChar ++ (n.fractionText ++ n.exponentText))
      = some (.finite n.negative (digitsNumber (n.whole ++ n.fraction))
          (n.exponent.elim 0 Exponent.value - n.fraction.length)) := by
  have hdigits : Number.digitsValue? (n.whole.map digitChar ++ n.fraction.map digitChar)
      = some (digitsNumber (n.whole ++ n.fraction)) := by
    rw [← List.map_append, digitsValue?_digits (by simp [n.whole_ne_nil])]
  have hhead : ∀ c ∈ (n.fractionText ++ n.exponentText).head?, Number.isDecimalDigit c = false := by
    intro c hc
    unfold Numeral.fractionText at hc
    split at hc
    · rcases n.head_exponentText c hc with rfl | rfl <;> decide
    · cases hc
      decide
  obtain ⟨htake, hdrop⟩ := takeWhile_digits isDecimalDigit_digitChar hhead n.whole
  rw [Number.unsignedDecimal?, htake, hdrop, splitFraction_text]
  simp only [hdigits, exponentValue?_text, Option.bind_eq_bind, Option.bind_some, Option.pure_def,
    List.length_map]

/-- A digit begins no name. -/
theorem decimalOfChars?_text (n : Numeral) :
    Number.decimalOfChars? n.text
      = Number.unsignedDecimal? n.negative
          (n.whole.map digitChar ++ (n.fractionText ++ n.exponentText)) := by
  obtain ⟨d, ds, hwhole⟩ := n.exists_whole
  have htext : n.text
      = n.signChars ++ (n.whole.map digitChar ++ (n.fractionText ++ n.exponentText)) := by
    simp [Numeral.text]
  rw [Number.decimalOfChars?, htext, n.splitSign_sign]
  simp only [hwhole, List.map_cons, List.cons_append, toLower_digitChar]
  generalize List.map Char.toLower (ds.map digitChar ++ (n.fractionText ++ n.exponentText)) = rest
  have hprefix (name : String) {c : Char} {cs : List Char} (hname : name.toList = c :: cs)
      (hc : c ∈ undigits) :
      ¬name.toList <+: (String.ofList (digitChar d :: rest)).toList := by
    rw [hname, String.toList_ofList, List.cons_prefix_cons]
    exact fun h => digitChar_ne d c hc h.1.symm
  have hinf : (String.ofList (digitChar d :: rest) == "inf"
      || String.ofList (digitChar d :: rest) == "infinity") = false := by
    rw [Bool.or_eq_false_iff, beq_eq_false_iff_ne, beq_eq_false_iff_ne]
    exact ⟨fun h => hprefix "inf" rfl (by decide) (h ▸ List.prefix_rfl),
      fun h => hprefix "infinity" rfl (by decide) (h ▸ List.prefix_rfl)⟩
  rw [hinf, if_neg Bool.false_ne_true, if_neg, if_neg]
  · rw [String.startsWith_string_iff]
    exact hprefix _ rfl (by decide)
  · rw [String.startsWith_string_iff]
    exact hprefix _ rfl (by decide)

/-- Any other number is the binary number nearest to the decimal. -/
theorem floatOfText?_text (n : Numeral) :
    Number.floatOfText? (String.ofList n.text)
      = some (Number.Decimal.finite n.negative (digitsNumber (n.whole ++ n.fraction))
          (n.exponent.elim 0 Exponent.value - n.fraction.length)).toBinary.toFloat := by
  rw [Number.floatOfText?, numeralChars?_of_kept n.text_ne_nil n.kept_text]
  simp only [Option.bind_eq_bind, Option.bind_some, decimalOfChars?_text, unsignedDecimal?_text]

/-! ## Reading a number -/

theorem Numeral.stops_exponent (n : Numeral) {rest : List Char} (h : Stops rest) :
    ∀ c ∈ (n.exponentText ++ rest).head?, isDigit c = false ∧ c ≠ '.' := by
  intro c hc
  rw [List.head?_append] at hc
  cases hhead : n.exponentText.head? with
  | some c' =>
      rw [hhead, Option.some_or] at hc
      cases hc
      rcases n.head_exponentText c hhead with rfl | rfl <;> decide
  | none =>
      rw [hhead, Option.none_or] at hc
      exact ⟨(h c hc).1, fun hdot => (h c hc).2 (by simp [hdot])⟩

theorem Numeral.stops_fraction (n : Numeral) {rest : List Char} (h : Stops rest) :
    ∀ c ∈ (n.fractionText ++ (n.exponentText ++ rest)).head?, isDigit c = false := by
  intro c hc
  unfold Numeral.fractionText at hc
  split at hc
  · exact (n.stops_exponent h c hc).1
  · cases hc
    decide

theorem Numeral.exponentPart_text (n : Numeral) {rest : List Char} (h : Stops rest) :
    exponentPart (n.exponentText ++ rest) = n.exponentText := by
  unfold Numeral.exponentText
  rcases n.exponent with _ | e
  · exact exponentPart_none h
  · exact Json.exponentPart_text e h.digit

theorem Numeral.isPlain_iff (n : Numeral) :
    (n.fractionText.isEmpty && n.exponentText.isEmpty) = true
      ↔ n.fraction = [] ∧ n.exponent = none := by
  unfold Numeral.fractionText Numeral.exponentText
  rcases n.exponent with _ | e <;> by_cases hfraction : n.fraction = [] <;>
    simp [hfraction, Exponent.text]

theorem unsigned_text (n : Numeral) {rest : List Char} (h : Stops rest) :
    unsigned n.negative
        (n.whole.map digitChar ++ (n.fractionText ++ (n.exponentText ++ rest)))
      = some (n.value, rest) := by
  have hwhole := wholePart_digits n (n.stops_fraction h)
  have hfraction := fractionPart_text n (n.stops_exponent h)
  have hexponent := n.exponentPart_text h
  have hwritten : (if n.negative then ['-'] else []) ++ n.whole.map digitChar ++ n.fractionText
      ++ n.exponentText = n.text := rfl
  have hne : (n.whole.map digitChar).isEmpty = false := by simp [n.whole_ne_nil]
  unfold unsigned Numeral.value
  simp only [hwhole, hne, List.drop_left, hfraction, hexponent, hwritten, n.isPlain_iff]
  rw [if_neg Bool.false_ne_true]
  by_cases hplain : n.fraction = [] ∧ n.exponent = none
  · rw [if_pos hplain, if_pos hplain, integerOfText?_text n hplain.1 hplain.2]
    rfl
  · rw [if_neg hplain, if_neg hplain, floatOfText?_text]
    rfl

/-- A number is read to its end. -/
theorem number_text (n : Numeral) {rest : List Char} (h : Stops rest) :
    number (n.text ++ rest) = some (n.value, rest) := by
  have hread := unsigned_text n h
  simp only [Numeral.text, List.append_assoc]
  cases hnegative : n.negative with
  | true =>
      rw [hnegative] at hread
      simp only [Numeral.signChars, hnegative, ↓reduceIte, List.cons_append, List.nil_append,
        number]
      exact hread
  | false =>
      obtain ⟨d, ds, hwhole⟩ := n.exists_whole
      rw [hnegative] at hread
      simp only [Numeral.signChars, hnegative, Bool.false_eq_true, ↓reduceIte, List.nil_append]
      rw [hwhole] at hread ⊢
      rw [List.map_cons, List.cons_append] at hread ⊢
      rw [number]
      · exact hread
      · intro rest hcons
        exact digitChar_ne d '-' (by decide) (List.cons.inj hcons).1

/-! ## Numbers with more behind them -/

theorem takeWhile_append_of_rest {p : Char → Bool} {cs : List Char}
    (h : cs.drop (cs.takeWhile p).length ≠ []) (more : List Char) :
    (cs ++ more).takeWhile p = cs.takeWhile p := by
  induction cs with
  | nil => exact absurd rfl h
  | cons c cs ih =>
      rw [List.cons_append]
      cases hc : p c with
      | false =>
          have hneg : ¬p c = true := by simp [hc]
          rw [List.takeWhile_cons_of_neg hneg, List.takeWhile_cons_of_neg hneg]
      | true =>
          rw [List.takeWhile_cons_of_pos hc] at h
          rw [List.takeWhile_cons_of_pos hc, List.takeWhile_cons_of_pos hc, ih h]

theorem wholePart_append {cs : List Char} (h : cs.drop (wholePart cs).length ≠ [])
    (more : List Char) : wholePart (cs ++ more) = wholePart cs := by
  unfold wholePart at h ⊢
  split at h
  · rfl
  · rename_i hno
    rw [takeWhile_append_of_rest h]
    split
    · rename_i rest heq
      cases cs with
      | nil => exact absurd rfl h
      | cons c cs => exact (hno cs (by rw [(List.cons.inj heq).1])).elim
    · rfl

theorem fractionPart_append {cs : List Char} (h : cs.drop (fractionPart cs).length ≠ [])
    (hpoint : (cs.drop (fractionPart cs).length).head? ≠ some '.') (more : List Char) :
    fractionPart (cs ++ more) = fractionPart cs := by
  cases cs with
  | nil => exact absurd rfl h
  | cons c cs =>
      by_cases hc : c = '.'
      · subst hc
        simp only [fractionPart, List.cons_append] at h hpoint ⊢
        split at hpoint
        · exact absurd rfl hpoint
        · rename_i hdigits
          rw [if_neg hdigits, List.length_cons, List.drop_succ_cons] at h
          rw [takeWhile_append_of_rest h]
      · have hno (ds : List Char) : fractionPart (c :: ds) = [] := by
          rw [fractionPart]
          intro rest hcons
          exact hc (List.cons.inj hcons).1
        rw [List.cons_append, hno, hno]

theorem signPart_append {cs : List Char} (h : cs ≠ []) (more : List Char) :
    signPart (cs ++ more) = signPart cs := by
  cases cs with
  | nil => exact absurd rfl h
  | cons c cs => rfl

theorem length_signPart_le (cs : List Char) : (signPart cs).length ≤ cs.length := by
  unfold signPart
  split
  · split <;> simp
  · exact Nat.le_refl _

theorem exponentPart_append {cs : List Char} (h : cs.drop (exponentPart cs).length ≠ [])
    (hletter : ∀ c ∈ (cs.drop (exponentPart cs).length).head?, c ∉ ['e', 'E']) (more : List Char) :
    exponentPart (cs ++ more) = exponentPart cs := by
  cases cs with
  | nil => exact absurd rfl h
  | cons c cs =>
      simp only [exponentPart, List.cons_append] at h hletter ⊢
      split
      · rename_i hc
        rw [if_pos hc] at h hletter
        split at hletter
        · exact absurd (by simpa using hc) (hletter c rfl)
        · rename_i hdigits
          rw [if_neg hdigits, List.length_cons, List.drop_succ_cons,
            List.length_append, ← List.drop_drop] at h
          have hne : cs ≠ [] := by rintro rfl; simp at h
          rw [signPart_append hne, List.drop_append_of_le_length (length_signPart_le cs),
            takeWhile_append_of_rest h]
      · rfl

/-- What is left of a number without sign: its parts are taken off one after the other. -/
theorem rest_of_unsigned {negative : Bool} {cs rest : List Char} {d : Document}
    (h : unsigned negative cs = some (d, rest)) :
    rest = ((cs.drop (wholePart cs).length).drop
      (fractionPart (cs.drop (wholePart cs).length)).length).drop
        (exponentPart ((cs.drop (wholePart cs).length).drop
          (fractionPart (cs.drop (wholePart cs).length)).length)).length := by
  simp only [unsigned, Option.bind_eq_bind] at h
  split at h
  · cases h
  · split at h <;>
    · obtain ⟨v, -, hv⟩ := Option.bind_eq_some_iff.mp h
      cases hv
      rfl

theorem length_wholePart_le (cs : List Char) : (wholePart cs).length ≤ cs.length := by
  unfold wholePart
  split
  · simp
  · exact (List.takeWhile_sublist _).length_le

theorem length_fractionPart_le (cs : List Char) : (fractionPart cs).length ≤ cs.length := by
  cases cs with
  | nil => exact Nat.le_refl 0
  | cons c cs =>
      unfold fractionPart
      split
      · rename_i rest heq
        cases heq
        simp only
        split
        · exact Nat.zero_le _
        · exact Nat.succ_le_succ (List.takeWhile_sublist _).length_le
      · exact Nat.zero_le _

theorem length_exponentPart_le (cs : List Char) : (exponentPart cs).length ≤ cs.length := by
  cases cs with
  | nil => exact Nat.le_refl 0
  | cons c cs =>
      simp only [exponentPart]
      split
      · split
        · exact Nat.zero_le _
        · have htake :=
            (List.takeWhile_sublist isDigit (l := cs.drop (signPart cs).length)).length_le
          have hsign := length_signPart_le cs
          simp only [List.length_cons, List.length_append, List.length_drop] at htake ⊢
          omega
      · exact Nat.zero_le _

/-- A number with something behind it that ends it is read the same with more behind that. -/
theorem unsigned_append {negative : Bool} {cs rest : List Char} {d : Document}
    (h : unsigned negative cs = some (d, rest)) (hne : rest ≠ []) (hstops : Stops rest)
    (more : List Char) : unsigned negative (cs ++ more) = some (d, rest ++ more) := by
  have hrest := rest_of_unsigned h
  generalize hafterWhole : cs.drop (wholePart cs).length = afterWhole at hrest
  generalize hafterFraction : afterWhole.drop (fractionPart afterWhole).length = afterFraction
    at hrest
  have hneFraction : afterFraction ≠ [] := by
    rintro rfl
    rw [List.drop_nil] at hrest
    exact hne hrest
  have hneWhole : afterWhole ≠ [] := by
    rintro rfl
    rw [List.drop_nil] at hafterFraction
    exact hneFraction hafterFraction.symm
  have hexponent : exponentPart (afterFraction ++ more) = exponentPart afterFraction := by
    refine exponentPart_append (hrest ▸ hne) (fun c hc hmem => ?_) more
    rw [← hrest] at hc
    exact (hstops c hc).2 (List.mem_cons_of_mem _ hmem)
  have hfraction : fractionPart (afterWhole ++ more) = fractionPart afterWhole := by
    refine fractionPart_append (hafterFraction ▸ hneFraction) (fun hpoint => ?_) more
    rw [hafterFraction] at hpoint
    obtain ⟨behind, rfl⟩ := List.head?_eq_some_iff.mp hpoint
    -- A point that begins no fraction begins no exponent either.
    have hnone : exponentPart ('.' :: behind) = [] := rfl
    rw [hnone] at hrest
    rw [hrest] at hstops
    exact (hstops '.' rfl).2 (by decide)
  have hwhole : wholePart (cs ++ more) = wholePart cs :=
    wholePart_append (hafterWhole ▸ hneWhole) more
  have hdropWhole : (cs ++ more).drop (wholePart cs).length = afterWhole ++ more := by
    rw [List.drop_append_of_le_length (length_wholePart_le cs), hafterWhole]
  have hdropFraction : (afterWhole ++ more).drop (fractionPart afterWhole).length
      = afterFraction ++ more := by
    rw [List.drop_append_of_le_length (length_fractionPart_le afterWhole), hafterFraction]
  have hdropExponent : (afterFraction ++ more).drop (exponentPart afterFraction).length
      = rest ++ more := by
    rw [List.drop_append_of_le_length (length_exponentPart_le afterFraction), hrest]
  simp only [unsigned, hwhole, hdropWhole, hfraction, hdropFraction, hexponent, hdropExponent]
  simp only [unsigned, hafterWhole, hafterFraction, Option.bind_eq_bind] at h
  split at h
  · cases h
  · rename_i hwholeNe
    rw [if_neg hwholeNe]
    split at h
    · rename_i hplain
      obtain ⟨v, hv, heq⟩ := Option.bind_eq_some_iff.mp h
      cases heq
      rw [if_pos hplain, hv]
      rfl
    · rename_i hplain
      obtain ⟨v, hv, heq⟩ := Option.bind_eq_some_iff.mp h
      cases heq
      rw [if_neg hplain, hv]
      rfl

theorem number_append {cs rest : List Char} {d : Document} (h : number cs = some (d, rest))
    (hne : rest ≠ []) (hstops : Stops rest) (more : List Char) :
    number (cs ++ more) = some (d, rest ++ more) := by
  cases cs with
  | nil => cases h
  | cons c cs =>
      by_cases hc : c = '-'
      · subst hc
        exact unsigned_append h hne hstops more
      · have hunsigned (cs : List Char) : number (c :: cs) = unsigned false (c :: cs) := by
          rw [number]
          intro rest hcons
          exact hc (List.cons.inj hcons).1
        rw [hunsigned] at h
        rw [List.cons_append, hunsigned]
        exact unsigned_append h hne hstops more

end QueryClient.Json
