import QueryClient.Proofs.Query.Identifier

/-!
# Where an alias begins

A name is cut at the first word `as` between white space, but only when it holds one between single
spaces. What is written in front of the cut or behind it does not move the cut.
-/

namespace QueryClient.Identifier

/-! ## Texts without a character -/

section Without

variable {α : Type} {d : α} {word left right : List α}

theorem prefix_of_prefix_append_cons (hd : d ∉ word) (h : word <+: left ++ d :: right) :
    word <+: left := by
  induction left generalizing word with
  | nil =>
    rcases List.prefix_cons_iff.mp h with rfl | ⟨_, rfl, -⟩
    · exact List.prefix_rfl
    · simp at hd
  | cons c left ih =>
    rcases List.prefix_cons_iff.mp h with rfl | ⟨word', rfl, h'⟩
    · exact List.nil_prefix
    · simp only [List.mem_cons, not_or] at hd
      exact List.cons_prefix_cons.mpr ⟨rfl, ih hd.2 h'⟩

/-- A word without a character stands on one side of it. -/
theorem infix_or_infix_of_infix_append_cons (hd : d ∉ word) (h : word <:+: left ++ d :: right) :
    word <:+: left ∨ word <:+: right := by
  induction left with
  | nil =>
    rcases List.infix_cons_iff.mp h with h | h
    · exact .inl (prefix_of_prefix_append_cons hd h).isInfix
    · exact .inr h
  | cons c left ih =>
    rcases List.infix_cons_iff.mp h with h | h
    · exact .inl (prefix_of_prefix_append_cons hd h).isInfix
    · exact (ih h).imp_left fun h => List.infix_cons h

theorem infix_of_infix_cons (hd : d ∉ word) (h : word <:+: d :: right) : word <:+: right := by
  have h' : word <:+: [] ++ d :: right := h
  exact (infix_or_infix_of_infix_append_cons hd h').elim (·.trans List.nil_infix) id

end Without

/-! ## The word that introduces an alias -/

theorem isBlank_of_isLetter {small c : Char} (hsmall : small = 'a' ∨ small = 's')
    (h : isLetter small c = true) : Text.isBlank c = false := by
  simp only [isLetter, Bool.or_eq_true, beq_iff_eq, Bool.and_eq_true] at h
  rcases hsmall with rfl | rfl <;> rcases h with (rfl | rfl) | ⟨-, rfl⟩ <;> decide

/-- White space, the word, white space, and the alias behind. -/
theorem aliasAt?_eq_some_iff {cs label : List Char} : aliasAt? cs = some label ↔
    ∃ c blanks a s b rest, cs = c :: (blanks ++ a :: s :: b :: rest) ∧ Text.isBlank c = true
      ∧ (∀ d ∈ blanks, Text.isBlank d = true) ∧ isLetter 'a' a = true ∧ isLetter 's' s = true
      ∧ Text.isBlank b = true ∧ label = rest.dropWhile Text.isBlank := by
  constructor
  · intro h
    cases cs with
    | nil => simp [aliasAt?] at h
    | cons c cs =>
      simp only [aliasAt?] at h
      split at h
      · rename_i hc
        split at h
        · rename_i a s b rest hdrop
          simp only [Option.ite_none_right_eq_some, Bool.and_eq_true, Option.some.injEq] at h
          rw [List.dropWhile_cons_of_pos hc] at hdrop
          refine ⟨c, cs.takeWhile Text.isBlank, a, s, b, rest, ?_, hc, ?_, h.1.1.1, h.1.1.2, h.1.2,
            h.2.symm⟩
          · rw [← hdrop, List.takeWhile_append_dropWhile]
          · exact List.all_eq_true.mp List.all_takeWhile
        · cases h
      · cases h
  · rintro ⟨c, blanks, a, s, b, rest, rfl, hc, hblanks, ha, hs, hb, rfl⟩
    have hdrop : (c :: (blanks ++ a :: s :: b :: rest)).dropWhile Text.isBlank
        = a :: s :: b :: rest := by
      rw [List.dropWhile_cons_of_pos hc, List.dropWhile_append_of_pos hblanks,
        List.dropWhile_cons_of_neg (by rw [isBlank_of_isLetter (.inl rfl) ha]; simp)]
    simp only [aliasAt?, hc, if_true, hdrop, ha, hs, hb, Bool.and_self]

/-- More text behind does not take the word away. -/
theorem aliasAt?_append {cs label : List Char} (h : aliasAt? cs = some label) (more : List Char) :
    ∃ label', aliasAt? (cs ++ more) = some label' := by
  obtain ⟨c, blanks, a, s, b, rest, rfl, hc, hblanks, ha, hs, hb, -⟩ := aliasAt?_eq_some_iff.mp h
  exact ⟨_, aliasAt?_eq_some_iff.mpr
    ⟨c, blanks, a, s, b, rest ++ more, by simp, hc, hblanks, ha, hs, hb, rfl⟩⟩

theorem dropWhile_append_cons {α : Type} {p : α → Bool} {d : α} (hd : p d = false)
    (cs more : List α) : (cs ++ d :: more).dropWhile p = cs.dropWhile p ++ d :: more := by
  rw [List.dropWhile_append]
  split
  · rename_i hnil
    rw [List.isEmpty_iff.mp hnil, List.dropWhile_cons_of_neg (by simp [hd]), List.nil_append]
  · rfl

theorem aliasAt?_append_dot {cs label : List Char} (h : aliasAt? cs = some label)
    (more : List Char) : aliasAt? (cs ++ '.' :: more) = some (label ++ '.' :: more) := by
  obtain ⟨c, blanks, a, s, b, rest, rfl, hc, hblanks, ha, hs, hb, rfl⟩ :=
    aliasAt?_eq_some_iff.mp h
  exact aliasAt?_eq_some_iff.mpr ⟨c, blanks, a, s, b, rest ++ '.' :: more, by simp, hc, hblanks,
    ha, hs, hb, (dropWhile_append_cons (by decide) rest more).symm⟩

/-- No dot stands in the word or in the white space around it. -/
theorem aliasAt?_of_append_dot {cs label more : List Char}
    (h : aliasAt? (cs ++ '.' :: more) = some label) : ∃ label', aliasAt? cs = some label' := by
  obtain ⟨c, blanks, a, s, b, rest, heq, hc, hblanks, ha, hs, hb, -⟩ := aliasAt?_eq_some_iff.mp h
  have hdot : '.' ∉ c :: (blanks ++ [a, s, b]) := by
    simp only [List.mem_cons, List.mem_append, List.not_mem_nil, or_false]
    rintro (rfl | hmem | rfl | rfl | rfl)
    · cases hc
    · cases hblanks _ hmem
    · cases ha
    · cases hs
    · cases hb
  obtain ⟨rest', rfl⟩ := prefix_of_prefix_append_cons hdot ⟨rest, by rw [heq]; simp⟩
  exact ⟨_, aliasAt?_eq_some_iff.mpr
    ⟨c, blanks, a, s, b, rest', by simp, hc, hblanks, ha, hs, hb, rfl⟩⟩

/-! ## The cut -/

theorem cutAlias?_cons_of_some {c : Char} {rest label : List Char}
    (h : aliasAt? (c :: rest) = some label) : cutAlias? (c :: rest) = some ([], label) := by
  simp [cutAlias?, h]

theorem cutAlias?_cons_of_none {c : Char} {rest : List Char} (h : aliasAt? (c :: rest) = none) :
    cutAlias? (c :: rest) = (cutAlias? rest).map fun (name, label) => (c :: name, label) := by
  simp [cutAlias?, h]

/-- Behind the name stands the word. -/
theorem eq_append_of_cutAlias? {cs name label : List Char}
    (h : cutAlias? cs = some (name, label)) :
    ∃ rest, cs = name ++ rest ∧ aliasAt? rest = some label := by
  induction cs generalizing name with
  | nil => cases h
  | cons c cs ih =>
    cases halias : aliasAt? (c :: cs) with
    | some label' =>
      rw [cutAlias?_cons_of_some halias] at h
      cases h
      exact ⟨c :: cs, rfl, halias⟩
    | none =>
      rw [cutAlias?_cons_of_none halias, Option.map_eq_some_iff] at h
      obtain ⟨⟨name', label'⟩, hcut, ⟨⟩⟩ := h
      obtain ⟨rest, rfl, hrest⟩ := ih hcut
      exact ⟨rest, rfl, hrest⟩

/-- The name in front of an alias is not cut again. -/
theorem cutAlias?_name {cs name label : List Char} (h : cutAlias? cs = some (name, label)) :
    cutAlias? name = none := by
  induction cs generalizing name with
  | nil => cases h
  | cons c cs ih =>
    cases halias : aliasAt? (c :: cs) with
    | some label' =>
      rw [cutAlias?_cons_of_some halias] at h
      cases h
      rfl
    | none =>
      rw [cutAlias?_cons_of_none halias, Option.map_eq_some_iff] at h
      obtain ⟨⟨name', label'⟩, hcut, ⟨⟩⟩ := h
      obtain ⟨rest, rfl, -⟩ := eq_append_of_cutAlias? hcut
      have hname : aliasAt? (c :: name') = none := by
        rw [Option.eq_none_iff_forall_ne_some]
        intro label'' hsome
        obtain ⟨_, happend⟩ := aliasAt?_append hsome rest
        rw [List.cons_append, halias] at happend
        cases happend
      rw [cutAlias?_cons_of_none hname, ih hcut]
      rfl

theorem cutAlias?_append_dot {cs name label : List Char} (h : cutAlias? cs = some (name, label))
    (more : List Char) : cutAlias? (cs ++ '.' :: more) = some (name, label ++ '.' :: more) := by
  induction cs generalizing name with
  | nil => cases h
  | cons c cs ih =>
    cases halias : aliasAt? (c :: cs) with
    | some label' =>
      rw [cutAlias?_cons_of_some halias] at h
      cases h
      exact cutAlias?_cons_of_some (aliasAt?_append_dot halias more)
    | none =>
      rw [cutAlias?_cons_of_none halias, Option.map_eq_some_iff] at h
      obtain ⟨⟨name', label'⟩, hcut, ⟨⟩⟩ := h
      have hmore : aliasAt? (c :: (cs ++ '.' :: more)) = none := by
        rw [Option.eq_none_iff_forall_ne_some]
        intro label'' hsome
        rw [← List.cons_append] at hsome
        obtain ⟨_, hcs⟩ := aliasAt?_of_append_dot hsome
        rw [halias] at hcs
        cases hcs
      rw [List.cons_append, cutAlias?_cons_of_none hmore, ih hcut]
      rfl

/-- White space alone is not cut. -/
theorem cutAlias?_blanks {cs : List Char} (h : ∀ c ∈ cs, Text.isBlank c = true) :
    cutAlias? cs = none := by
  rw [Option.eq_none_iff_forall_ne_some]
  rintro ⟨name, label⟩ hcut
  obtain ⟨rest, rfl, halias⟩ := eq_append_of_cutAlias? hcut
  obtain ⟨c, blanks, a, s, b, more, rfl, -, -, ha, -⟩ := aliasAt?_eq_some_iff.mp halias
  have ha' := h a (by simp)
  rw [isBlank_of_isLetter (.inl rfl) ha] at ha'
  cases ha'

/-- A word that begins in front of one that is written is that one, or it stands in front of it with
white space of its own and takes the written one along. -/
theorem aliasAt?_written {c : Char} {cs label written : List Char}
    (h : aliasAt? (c :: (cs ++ ' ' :: 'a' :: 's' :: ' ' :: label)) = some written) :
    ((∀ d ∈ c :: cs, Text.isBlank d = true) ∧ written = label.dropWhile Text.isBlank)
    ∨ (∃ short, aliasAt? (c :: (cs ++ [' '])) = some short)
      ∧ ∃ more, written = more ++ 'a' :: 's' :: ' ' :: label := by
  obtain ⟨d, blanks, a, s, b, rest, heq, hd, hblanks, ha, hs, hb, rfl⟩ :=
    aliasAt?_eq_some_iff.mp h
  rw [List.cons.injEq] at heq
  obtain ⟨rfl, heq⟩ := heq
  rcases List.append_eq_append_iff.mp heq with ⟨between, rfl, hborder⟩ | ⟨between, rfl, hborder⟩
  · -- the white space reaches the written word
    left
    have ha' := isBlank_of_isLetter (.inl rfl) ha
    match between, hborder with
    | [], hborder =>
      obtain ⟨rfl, -⟩ := List.cons.inj hborder
      cases ha'
    | [e], hborder =>
      simp only [List.cons_append, List.nil_append, List.cons.injEq] at hborder
      obtain ⟨-, rfl, rfl, rfl, rfl⟩ := hborder
      refine ⟨fun e he => ?_, rfl⟩
      rcases List.mem_cons.mp he with rfl | he
      · exact hd
      · exact hblanks e (by simp [he])
    | e :: f :: between, hborder =>
      simp only [List.cons_append, List.cons.injEq] at hborder
      have hf := hblanks f (by simp)
      rw [← hborder.2.1] at hf
      cases hf
  · -- the word stands in front of the written one
    right
    match between, hborder with
    | [], hborder =>
      obtain ⟨rfl, -⟩ := List.cons.inj hborder
      cases ha
    | [e], hborder =>
      simp only [List.cons_append, List.nil_append, List.cons.injEq] at hborder
      obtain ⟨-, rfl, -⟩ := hborder
      cases hs
    | e :: f :: between, hborder =>
      simp only [List.cons_append, List.cons.injEq] at hborder
      obtain ⟨rfl, rfl, hborder⟩ := hborder
      obtain ⟨more, hmore, rfl⟩ : ∃ more, between ++ [' '] = b :: more
          ∧ rest = more ++ 'a' :: 's' :: ' ' :: label := by
        cases between with
        | nil => cases hborder; exact ⟨[], rfl, rfl⟩
        | cons g between => cases hborder; exact ⟨between ++ [' '], rfl, by simp⟩
      refine ⟨⟨_, aliasAt?_eq_some_iff.mpr
        ⟨c, blanks, a, s, b, more, by simp [hmore], hd, hblanks, ha, hs, hb, rfl⟩⟩, _,
        dropWhile_append_cons (by decide) more _⟩

/-- The alias that is written behind a name is the one that is read, without white space in front,
unless the word stands in the name already. -/
theorem cutAlias?_written (cs label : List Char) :
    (cutAlias? (cs ++ [' ']) = none ∧ ∃ name,
      cutAlias? (cs ++ ' ' :: 'a' :: 's' :: ' ' :: label)
        = some (name, label.dropWhile Text.isBlank))
    ∨ cutAlias? (cs ++ [' ']) ≠ none ∧ ∃ name more,
      cutAlias? (cs ++ ' ' :: 'a' :: 's' :: ' ' :: label)
        = some (name, more ++ 'a' :: 's' :: ' ' :: label) := by
  induction cs with
  | nil =>
    refine .inl ⟨cutAlias?_blanks (by decide), [], cutAlias?_cons_of_some ?_⟩
    exact aliasAt?_eq_some_iff.mpr
      ⟨' ', [], 'a', 's', ' ', label, rfl, by decide, by simp, by decide, by decide, by decide, rfl⟩
  | cons c cs ih =>
    simp only [List.cons_append]
    cases halias : aliasAt? (c :: (cs ++ ' ' :: 'a' :: 's' :: ' ' :: label)) with
    | some written =>
      rw [cutAlias?_cons_of_some halias]
      rcases aliasAt?_written halias with ⟨hblanks, rfl⟩ | ⟨⟨short, hshort⟩, more, rfl⟩
      · refine .inl ⟨cutAlias?_blanks fun d hd => ?_, [], rfl⟩
        simp only [List.mem_cons, List.mem_append, List.not_mem_nil, or_false] at hd
        rcases hd with rfl | hd | rfl
        · exact hblanks d List.mem_cons_self
        · exact hblanks d (List.mem_cons_of_mem _ hd)
        · decide
      · rw [cutAlias?_cons_of_some hshort]
        exact .inr ⟨by simp, [], more, rfl⟩
    | none =>
      have hshort : aliasAt? (c :: (cs ++ [' '])) = none := by
        rw [Option.eq_none_iff_forall_ne_some]
        intro short hsome
        obtain ⟨_, happend⟩ := aliasAt?_append hsome ('a' :: 's' :: ' ' :: label)
        rw [List.cons_append, List.append_assoc, List.singleton_append, halias] at happend
        cases happend
      rw [cutAlias?_cons_of_none halias, cutAlias?_cons_of_none hshort]
      rcases ih with ⟨hnone, name, hcut⟩ | ⟨hsome, name, more, hcut⟩
      · exact .inl ⟨by rw [hnone]; rfl, c :: name, by rw [hcut]; rfl⟩
      · exact .inr ⟨by simpa using hsome, c :: name, more, by rw [hcut]; rfl⟩

/-! ## Names with an alias -/

/-- The word `as` between single spaces, in any case. -/
inductive AliasWord : List Char → Prop
  | mk {a s : Char} (ha : a = 'a' ∨ a = 'A') (hs : s = 's' ∨ s = 'S') : AliasWord [' ', a, s, ' ']

theorem holdsAs_cons {c : Char} {cs : List Char} : holdsAs (c :: cs) = true ↔
    (∃ word, AliasWord word ∧ word <+: c :: cs) ∨ holdsAs cs = true := by
  conv => lhs; unfold holdsAs
  rw [Bool.or_eq_true]
  refine or_congr_left ⟨fun h => ?_, ?_⟩
  · split at h
    · simp only [Bool.and_eq_true, Bool.or_eq_true, beq_iff_eq] at h
      exact ⟨_, .mk h.1 h.2, List.prefix_append _ _⟩
    · cases h
  · rintro ⟨_, ⟨ha, hs⟩, rest, heq⟩
    cases heq
    simp [ha, hs]

theorem holdsAs_iff {cs : List Char} :
    holdsAs cs = true ↔ ∃ word, AliasWord word ∧ word <:+: cs := by
  induction cs with
  | nil =>
    simp only [holdsAs, Bool.false_eq_true, false_iff, not_exists, not_and]
    rintro word ⟨-, -⟩ h
    simp at h
  | cons c cs ih =>
    simp only [holdsAs_cons, ih, List.infix_cons_iff, and_or_left, exists_or]

theorem AliasWord.not_mem {word : List Char} (h : AliasWord word) {d : Char} (hd : d ≠ ' ')
    (ha : isLetter 'a' d = false) (hs : isLetter 's' d = false) : d ∉ word := by
  obtain ⟨ha', hs'⟩ := h
  simp only [List.mem_cons, List.not_mem_nil, or_false, not_or]
  refine ⟨hd, ?_, ?_, hd⟩
  · rintro rfl
    rcases ha' with rfl | rfl <;> cases ha
  · rintro rfl
    rcases hs' with rfl | rfl <;> cases hs

theorem holdsAs_append_left {left right : List Char} (h : holdsAs left = true) :
    holdsAs (left ++ right) = true := by
  obtain ⟨word, hword, hinfix⟩ := holdsAs_iff.mp h
  exact holdsAs_iff.mpr ⟨word, hword, hinfix.trans (List.prefix_append _ _).isInfix⟩

theorem holdsAs_append_right (left : List Char) {right : List Char} (h : holdsAs right = true) :
    holdsAs (left ++ right) = true := by
  obtain ⟨word, hword, hinfix⟩ := holdsAs_iff.mp h
  exact holdsAs_iff.mpr ⟨word, hword, hinfix.trans (List.suffix_append _ _).isInfix⟩

theorem AliasWord.space_mem {word : List Char} (h : AliasWord word) : ' ' ∈ word := by
  cases h
  exact List.mem_cons_self

/-- A dot parts a name into two that hold the word for themselves. -/
theorem holdsAs_append_dot (left right : List Char) :
    holdsAs (left ++ '.' :: right) = (holdsAs left || holdsAs right) := by
  rw [Bool.eq_iff_iff, Bool.or_eq_true]
  simp only [holdsAs_iff]
  constructor
  · rintro ⟨word, hword, h⟩
    have hdot : '.' ∉ word := hword.not_mem (by decide) (by decide) (by decide)
    rcases infix_or_infix_of_infix_append_cons hdot h with h | h
    · exact .inl ⟨word, hword, h⟩
    · exact .inr ⟨word, hword, h⟩
  · rintro (⟨word, hword, h⟩ | ⟨word, hword, h⟩)
    · exact ⟨word, hword, h.trans (List.prefix_append _ _).isInfix⟩
    · exact ⟨word, hword, h.trans ((List.suffix_cons _ _).trans (List.suffix_append _ _)).isInfix⟩

theorem aliasAt?_of_aliasWord {word cs : List Char} (hword : AliasWord word) (h : word <+: cs) :
    ∃ label, aliasAt? cs = some label := by
  obtain ⟨ha, hs⟩ := hword
  obtain ⟨rest, rfl⟩ := h
  refine ⟨_, aliasAt?_eq_some_iff.mpr ⟨' ', [], _, _, ' ', rest, rfl, by decide, by simp, ?_, ?_,
    by decide, rfl⟩⟩
  · rcases ha with rfl | rfl <;> decide
  · rcases hs with rfl | rfl <;> decide

/-- A name that holds the word, but not in its rest, is cut in front of the rest. -/
theorem cutAlias?_append {cs rest : List Char} (h : holdsAs (cs ++ rest) = true)
    (hrest : holdsAs rest = false) : ∃ name label c between,
    cutAlias? (cs ++ rest) = some (name, label) ∧ cs = name ++ c :: between
      ∧ Text.isBlank c = true := by
  induction cs with
  | nil => rw [List.nil_append, hrest] at h; cases h
  | cons c cs ih =>
    rw [List.cons_append] at h
    cases halias : aliasAt? (c :: (cs ++ rest)) with
    | some label =>
      obtain ⟨d, blanks, a, s, b, more, heq, hd, -⟩ := aliasAt?_eq_some_iff.mp halias
      rw [List.cons.injEq] at heq
      exact ⟨[], label, c, cs, cutAlias?_cons_of_some halias, rfl, heq.1 ▸ hd⟩
    | none =>
      rcases holdsAs_cons.mp h with ⟨word, hword, hfront⟩ | h
      · obtain ⟨_, hsome⟩ := aliasAt?_of_aliasWord hword hfront
        rw [halias] at hsome
        cases hsome
      · obtain ⟨name, label, d, between, hcut, rfl, hd⟩ := ih h
        exact ⟨c :: name, label, d, between,
          by rw [List.cons_append, cutAlias?_cons_of_none halias, hcut]; rfl, rfl, hd⟩

theorem exists_cutAlias? {cs : List Char} (h : holdsAs cs = true) :
    ∃ name label, cutAlias? cs = some (name, label) := by
  rw [← List.append_nil cs] at h ⊢
  obtain ⟨name, label, _, _, hcut, -⟩ := cutAlias?_append h rfl
  exact ⟨name, label, hcut⟩

theorem nameAndAlias_of_not_holdsAs {cs : List Char} (h : holdsAs cs = false) :
    nameAndAlias cs = (cs, none) := by
  simp [nameAndAlias, h]

theorem nameAndAlias_of_cutAlias? {cs name label : List Char} (h : holdsAs cs = true)
    (hcut : cutAlias? cs = some (name, label)) : nameAndAlias cs = (name, some label) := by
  simp [nameAndAlias, h, hcut]

theorem nameAndAlias_cases (cs : List Char) : nameAndAlias cs = (cs, none)
    ∨ ∃ name label, cutAlias? cs = some (name, label) ∧ nameAndAlias cs = (name, some label) := by
  cases h : holdsAs cs with
  | false => exact .inl (nameAndAlias_of_not_holdsAs h)
  | true =>
    obtain ⟨name, label, hcut⟩ := exists_cutAlias? h
    exact .inr ⟨name, label, hcut, nameAndAlias_of_cutAlias? h hcut⟩

theorem eq_of_nameAndAlias {cs name : List Char} (h : nameAndAlias cs = (name, none)) :
    name = cs := by
  rcases nameAndAlias_cases cs with hcs | ⟨_, _, -, hcs⟩
  · exact (Prod.mk.inj (h.symm.trans hcs)).1
  · cases h.symm.trans hcs

theorem nameAndAlias_front (cs : List Char) : (nameAndAlias cs).1 <+: cs := by
  rcases nameAndAlias_cases cs with hcs | ⟨name, label, hcut, hcs⟩
  · exact ⟨[], by rw [hcs, List.append_nil]⟩
  · obtain ⟨rest, rfl, -⟩ := eq_append_of_cutAlias? hcut
    exact ⟨_, by rw [hcs]⟩

/-- The name in front of an alias has none of its own. -/
theorem nameAndAlias_name (cs : List Char) :
    nameAndAlias (nameAndAlias cs).1 = ((nameAndAlias cs).1, none) := by
  cases h : holdsAs cs with
  | false => rw [nameAndAlias_of_not_holdsAs h, nameAndAlias_of_not_holdsAs h]
  | true =>
    obtain ⟨name, label, hcut⟩ := exists_cutAlias? h
    rw [nameAndAlias_of_cutAlias? h hcut, nameAndAlias, cutAlias?_name hcut]
    split <;> rfl

theorem namedBy_of_nameAndAlias {cs : List Char} (h : nameAndAlias cs = (cs, none))
    (table : List Char → Except Fault (List Char)) (tablePrefix : List Char) (prefixAlias : Bool) :
    namedBy table tablePrefix prefixAlias cs = qualifiedBy table cs := by
  rw [namedBy_eq, h]
  cases qualifiedBy table cs <;> cases prefixAlias <;> rfl

end QueryClient.Identifier
