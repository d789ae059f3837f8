import Mathlib.Algebra.GroupWithZero.Nat
import QueryClient.Proofs.Query.Aliases

/-!
# What can be read off a segment

The field of a written segment ends at the first backtick that is not doubled, so that it can be
read off. Of the path that is not so, as its parts are not protected; but how much is written for it
can be told, and so can the white space and the words in it.
-/

namespace QueryClient.Identifier

/-! ## Arrows -/

theorem splitAtArrows_ne_nil (cs : List Char) : splitAtArrows cs ≠ [] := by
  fun_induction splitAtArrows cs <;> simp

/-- The first part begins as the name does. -/
theorem eq_cons_of_splitAtArrows {cs piece : List Char} {c : Char} {pieces : List (List Char)}
    (h : splitAtArrows cs = (c :: piece) :: pieces) : ∃ rest, cs = c :: rest := by
  fun_cases splitAtArrows cs <;> simp_all [splitAtArrows]

/-- The field of a selector holds no arrow of its own. -/
theorem splitAtArrows_field {cs field : List Char} {path : List (List Char)}
    (h : splitAtArrows cs = field :: path) : splitAtArrows field = [field] := by
  fun_induction splitAtArrows cs generalizing field path with
  | case1 => simp_all [splitAtArrows]
  | case2 => simp_all [splitAtArrows]
  | case3 c rest harrow piece pieces hrest ih =>
    simp only [List.cons.injEq] at h
    obtain ⟨rfl, rfl⟩ := h
    have hpiece := ih hrest
    have hhead : ∀ tail, c = '-' → piece = '>' :: tail → False := by
      rintro tail rfl rfl
      obtain ⟨tail', rfl⟩ := eq_cons_of_splitAtArrows hrest
      exact harrow tail' rfl rfl
    rw [splitAtArrows, hpiece]
    exact hhead
  | case4 c rest harrow hrest => exact absurd hrest (splitAtArrows_ne_nil rest)

/-- A character that is no arrow belongs to the first part. -/
theorem splitAtArrows_cons {c : Char} {rest piece : List Char} {pieces : List (List Char)}
    (harrow : ∀ tail, c = '-' → rest = '>' :: tail → False)
    (h : splitAtArrows rest = piece :: pieces) :
    splitAtArrows (c :: rest) = (c :: piece) :: pieces := by
  rw [splitAtArrows, h]
  exact harrow

theorem joinLists_splitAtArrows (cs : List Char) :
    Text.joinLists ['-', '>'] (splitAtArrows cs) = cs := by
  fun_induction splitAtArrows cs with
  | case1 => rfl
  | case2 rest ih =>
    cases h : splitAtArrows rest with
    | nil => exact absurd h (splitAtArrows_ne_nil rest)
    | cons piece pieces => rw [Text.joinLists_cons_cons, ← h, ih]; rfl
  | case3 c rest harrow piece pieces hrest ih =>
    rw [hrest] at ih
    cases pieces with
    | nil => simpa [Text.joinLists] using ih
    | cons next pieces =>
      rw [Text.joinLists_cons_cons] at ih ⊢
      simpa using ih
  | case4 c rest harrow hrest => exact absurd hrest (splitAtArrows_ne_nil rest)

theorem length_splitAtArrows_cons (c : Char) (rest : List Char) :
    (splitAtArrows rest).length ≤ (splitAtArrows (c :: rest)).length := by
  by_cases harrow : c = '-' ∧ ∃ tail, rest = '>' :: tail
  · obtain ⟨rfl, tail, rfl⟩ := harrow
    cases h : splitAtArrows tail with
    | nil => exact absurd h (splitAtArrows_ne_nil tail)
    | cons piece pieces =>
      rw [splitAtArrows_cons (by simp) h, splitAtArrows, h]
      simp
  · cases h : splitAtArrows rest with
    | nil => exact absurd h (splitAtArrows_ne_nil rest)
    | cons piece pieces =>
      rw [splitAtArrows_cons (fun tail hc hrest => harrow ⟨hc, tail, hrest⟩) h]
      simp

/-- More text in front takes no arrow away. -/
theorem length_splitAtArrows_append (front cs : List Char) :
    (splitAtArrows cs).length ≤ (splitAtArrows (front ++ cs)).length := by
  induction front with
  | nil => exact Nat.le_refl _
  | cons c front ih => exact Nat.le_trans ih (length_splitAtArrows_cons c (front ++ cs))

/-- A character that is no part of an arrow makes the last part longer. -/
theorem splitAtArrows_append_cons {cs last rest : List Char} {pieces : List (List Char)} {c : Char}
    (hminus : c ≠ '-') (hgreater : c ≠ '>') (h : splitAtArrows cs = pieces ++ [last]) :
    ∃ more others, splitAtArrows (cs ++ c :: rest) = pieces ++ (last ++ c :: more) :: others := by
  fun_induction splitAtArrows cs generalizing pieces last with
  | case1 =>
    obtain ⟨rfl, rfl⟩ : pieces = [] ∧ last = [] := by
      cases pieces with
      | nil => simpa using h.symm
      | cons => simp at h
    cases hrest : splitAtArrows rest with
    | nil => exact absurd hrest (splitAtArrows_ne_nil rest)
    | cons more others =>
      exact ⟨more, others, splitAtArrows_cons (fun _ hc _ => hminus hc) hrest⟩
  | case2 tail ih =>
    cases pieces with
    | nil =>
      simp only [List.nil_append, List.cons.injEq] at h
      exact absurd h.2 (splitAtArrows_ne_nil tail)
    | cons first pieces =>
      simp only [List.cons_append, List.cons.injEq] at h
      obtain ⟨rfl, h⟩ := h
      obtain ⟨more, others, hsplit⟩ := ih h
      exact ⟨more, others, by simp only [List.cons_append, splitAtArrows, hsplit]⟩
  | case3 d tail harrow piece pieces' htail ih =>
    have harrow' : ∀ tail', d = '-' → tail ++ c :: rest = '>' :: tail' → False := by
      intro tail' hd heq
      cases tail with
      | nil => exact hgreater (List.cons.inj heq).1
      | cons e tail => exact harrow tail hd (by rw [(List.cons.inj heq).1])
    cases pieces with
    | nil =>
      simp only [List.nil_append, List.cons.injEq] at h
      obtain ⟨rfl, rfl⟩ := h
      obtain ⟨more, others, hsplit⟩ := ih (show splitAtArrows tail = [] ++ [piece] from htail)
      exact ⟨more, others, splitAtArrows_cons harrow' hsplit⟩
    | cons first pieces =>
      simp only [List.cons_append, List.cons.injEq] at h
      obtain ⟨rfl, rfl⟩ := h
      obtain ⟨more, others, hsplit⟩ := ih (show splitAtArrows tail = (piece :: pieces) ++ [last] from htail)
      exact ⟨more, others, splitAtArrows_cons harrow' hsplit⟩
  | case4 d tail harrow htail => exact absurd htail (splitAtArrows_ne_nil tail)

/-! ## Field and path -/

/-- What is written behind the field. -/
def behindField : List (List Char) → List Char
  | [] => []
  | part :: parts => selectorText (part :: parts)

theorem segment_eq {cs field : List Char} {path : List (List Char)}
    (h : splitAtArrows cs = field :: path) : segment cs = fieldText field ++ behindField path := by
  have hjoin := joinLists_splitAtArrows cs
  cases path with
  | nil =>
    obtain rfl : field = cs := by simpa [h, Text.joinLists] using hjoin
    rw [segment, h, behindField, List.append_nil, fieldText]
  | cons part parts =>
    have hstar : cs ≠ ['*'] := by
      rintro rfl
      simp [splitAtArrows] at h
    simp [segment, if_neg hstar, h, fieldText, behindField, selectorText, pathText]

/-! ## Reading a field -/

theorem head?_doubled_cons (c : Char) (cs : List Char) : (doubled (c :: cs)).head? = some c := by
  rw [doubled_cons]
  split <;> simp_all

/-- A name ends at the first backtick that is not doubled. -/
theorem eq_of_doubled {field field' behind behind' : List Char} (hbehind : behind.head? ≠ some '\x60')
    (hbehind' : behind'.head? ≠ some '\x60')
    (h : doubled field ++ '\x60' :: behind = doubled field' ++ '\x60' :: behind') :
    field = field' ∧ behind = behind' := by
  induction field generalizing field' with
  | nil =>
    cases field' with
    | nil => exact ⟨rfl, (List.cons.inj h).2⟩
    | cons c field' =>
      rw [doubled_cons] at h
      split at h
      · refine absurd ?_ hbehind
        rw [(List.cons.inj h).2]
        rfl
      · rename_i hc
        exact absurd (List.cons.inj h).1.symm hc
  | cons c field ih =>
    cases field' with
    | nil =>
      rw [doubled_cons] at h
      split at h
      · refine absurd ?_ hbehind'
        rw [← (List.cons.inj h).2]
        rfl
      · rename_i hc
        exact absurd (List.cons.inj h).1 hc
    | cons c' field' =>
      obtain rfl : c = c' := by
        have hhead := congrArg List.head? h
        simpa [List.head?_append, head?_doubled_cons] using hhead
      rw [doubled_cons, doubled_cons, List.append_assoc, List.append_assoc,
        List.append_cancel_left_eq] at h
      obtain ⟨rfl, hrest⟩ := ih h
      exact ⟨rfl, hrest⟩

/-- The field of a segment can be read off its text. -/
theorem eq_of_fieldText {field field' behind behind' : List Char}
    (hbehind : behind.head? ≠ some '\x60') (hbehind' : behind'.head? ≠ some '\x60')
    (h : fieldText field ++ behind = fieldText field' ++ behind') :
    field = field' ∧ behind = behind' := by
  unfold fieldText at h
  split at h <;> split at h
  · rename_i hfield hfield'
    exact ⟨hfield.trans hfield'.symm, by simpa [hfield, hfield'] using h⟩
  · rename_i hfield _
    simp [hfield, backticked_eq] at h
  · rename_i _ hfield'
    simp [hfield', backticked_eq] at h
  · simp only [backticked_eq, List.cons_append, List.append_assoc, List.cons.injEq, true_and,
      List.nil_append] at h
    exact eq_of_doubled hbehind hbehind' h

theorem head?_behindField (path : List (List Char)) : (behindField path).head? ≠ some '\x60' := by
  cases path <;> simp [behindField, selectorText]

/-! ## Two segments -/

theorem exists_field (cs : List Char) : ∃ field path, splitAtArrows cs = field :: path := by
  cases h : splitAtArrows cs with
  | nil => exact absurd h (splitAtArrows_ne_nil cs)
  | cons field path => exact ⟨field, path, rfl⟩

theorem length_joinLists {α : Type} (separator piece : List α) (pieces : List (List α)) :
    (Text.joinLists separator (piece :: pieces)).length
      = piece.length + (pieces.map fun next => separator.length + next.length).sum := by
  induction pieces generalizing piece with
  | nil => simp [Text.joinLists]
  | cons next pieces ih =>
    simp only [Text.joinLists_cons_cons, List.length_append, ih, List.map_cons, List.sum_cons]
    omega

theorem length_pathPart (cs : List Char) : (pathPart cs).length = cs.length + 2 := by
  simp [pathPart]

theorem sum_length_pathPart (parts : List (List Char)) :
    (parts.map fun part => 1 + (part.length + 2)).sum
      = (parts.map fun part => 2 + part.length).sum + parts.length := by
  induction parts with
  | nil => rfl
  | cons part parts ih =>
    rw [List.map_cons, List.sum_cons, ih, List.map_cons, List.sum_cons, List.length_cons]
    omega

/-- A part that follows another takes one character more in the path than in the name. -/
theorem length_pathText {cs field part : List Char} {parts : List (List Char)}
    (h : splitAtArrows cs = field :: part :: parts) :
    (pathText (part :: parts)).length + field.length = cs.length + parts.length := by
  have hcs := congrArg List.length (joinLists_splitAtArrows cs)
  rw [h, length_joinLists, List.map_cons, List.sum_cons] at hcs
  have hsum := sum_length_pathPart parts
  rw [pathText, List.map_cons, length_joinLists, List.map_map]
  simp only [length_pathPart, List.length_cons, List.length_nil, Function.comp_def,
    Nat.reduceAdd] at hcs ⊢
  omega

theorem selectorText_inj {path path' : List (List Char)} (h : selectorText path = selectorText path') :
    pathText path = pathText path' := by
  simpa [selectorText] using h

/-- A name that is written as it is with more in front has nothing in front. -/
theorem eq_nil_of_segment_append {front cs : List Char} (h : segment (front ++ cs) = segment cs) :
    front = [] := by
  obtain ⟨field, path, hcs⟩ := exists_field cs
  obtain ⟨field', path', hfront⟩ := exists_field (front ++ cs)
  rw [segment_eq hcs, segment_eq hfront] at h
  obtain ⟨rfl, hpath⟩ := eq_of_fieldText (head?_behindField _) (head?_behindField _) h
  have harrows := length_splitAtArrows_append front cs
  rw [hcs, hfront] at harrows
  cases path with
  | nil =>
    cases path' with
    | nil =>
      have hcs' := joinLists_splitAtArrows cs
      have hfront' := joinLists_splitAtArrows (front ++ cs)
      rw [hcs] at hcs'
      rw [hfront, ← hcs'] at hfront'
      simpa [Text.joinLists] using hfront'
    | cons part parts => simp [behindField, selectorText] at hpath
  | cons part parts =>
    cases path' with
    | nil => simp [behindField, selectorText] at hpath
    | cons part' parts' =>
      have hlength := congrArg List.length (selectorText_inj hpath)
      have hcs' := length_pathText hcs
      have hfront' := length_pathText hfront
      rw [List.length_append] at hfront'
      simp only [List.length_cons] at harrows
      exact List.eq_nil_of_length_eq_zero (by omega)

/-- What stands in front of a part of a path does not depend on the part. -/
theorem pathText_append (parts : List (List Char)) : ∃ front, ∀ part others, ∃ behind,
    pathText (parts ++ part :: others) = front ++ '"' :: (part ++ '"' :: behind) := by
  induction parts with
  | nil =>
    refine ⟨[], fun part others => ?_⟩
    cases others with
    | nil => exact ⟨[], by simp [pathText, Text.joinLists, pathPart]⟩
    | cons next others =>
      refine ⟨'.' :: pathText (next :: others), ?_⟩
      simp [pathText, Text.joinLists_cons_cons, pathPart]
  | cons first parts ih =>
    obtain ⟨front, hfront⟩ := ih
    refine ⟨pathPart first ++ '.' :: front, fun part others => ?_⟩
    obtain ⟨behind, hbehind⟩ := hfront part others
    refine ⟨behind, ?_⟩
    obtain ⟨next, rest, hnext⟩ := List.exists_cons_of_ne_nil
      (List.append_ne_nil_of_right_ne_nil parts (List.cons_ne_nil part others))
    rw [hnext] at hbehind
    rw [List.cons_append, hnext, pathText, List.map_cons, List.map_cons, Text.joinLists_cons_cons,
      ← List.map_cons, ← pathText, hbehind]
    simp

/-- A name that goes on is not written as it was with more behind. -/
theorem segment_append_ne {cs rest more : List Char} {c : Char} (hminus : c ≠ '-')
    (hgreater : c ≠ '>') (hquote : c ≠ '"') (hmore : more.head? ≠ some '\x60') :
    segment (cs ++ c :: rest) ≠ segment cs ++ more := by
  intro h
  obtain ⟨field, path, hcs⟩ := exists_field cs
  rcases List.eq_nil_or_concat path with rfl | ⟨path, last, rfl⟩
  · have hlast : splitAtArrows cs = [] ++ [field] := hcs
    obtain ⟨tail, others, hlong⟩ := splitAtArrows_append_cons hminus hgreater hlast
    rw [segment_eq hlong, segment_eq hcs, behindField, List.append_nil] at h
    have hfield := (eq_of_fieldText (head?_behindField _) hmore h).1
    simpa using congrArg List.length hfield
  · rw [List.concat_eq_append, ← List.cons_append] at hcs
    obtain ⟨tail, others, hlong⟩ := splitAtArrows_append_cons hminus hgreater hcs
    rw [List.cons_append] at hlong hcs
    have hpath : ∀ part others, behindField (path ++ part :: others)
        = selectorText (path ++ part :: others) := by
      intro part others
      cases path <;> rfl
    rw [segment_eq hlong, segment_eq hcs, List.append_assoc] at h
    have hbehind : (behindField (path ++ [last]) ++ more).head? ≠ some '\x60' := by
      rw [hpath]
      simp [selectorText]
    have htext := (eq_of_fieldText (head?_behindField _) hbehind h).2
    obtain ⟨front, hfront⟩ := pathText_append path
    obtain ⟨behind, hlongText⟩ := hfront (last ++ c :: tail) others
    obtain ⟨behind', htextLast⟩ := hfront last []
    rw [hpath, hpath, selectorText, selectorText, hlongText, htextLast] at htext
    simp at htext
    exact hquote htext.1

/-! ## White space -/

theorem countP_joinLists {α : Type} {p : α → Bool} {separator : List α}
    (hseparator : separator.countP p = 0) (pieces : List (List α)) :
    (Text.joinLists separator pieces).countP p = (pieces.map (List.countP p)).sum := by
  induction pieces with
  | nil => rfl
  | cons piece pieces ih =>
    cases pieces with
    | nil => simp [Text.joinLists]
    | cons next pieces =>
      rw [Text.joinLists_cons_cons, List.countP_append, List.countP_append, ih, hseparator,
        Nat.add_zero, @List.map_cons _ _ _ piece (next :: pieces), List.sum_cons]

theorem countP_fieldText (field : List Char) :
    (fieldText field).countP Text.isBlank = field.countP Text.isBlank := by
  have hdoubled : (doubled field).countP Text.isBlank = field.countP Text.isBlank := by
    induction field with
    | nil => rfl
    | cons c field ih =>
      rw [doubled_cons, List.countP_append, ih, List.countP_cons, Nat.add_comm]
      split
      · rename_i hc
        subst hc
        rfl
      · simp [List.countP_cons]
  unfold fieldText
  split
  · rfl
  · have hquote : Text.isBlank '\x60' = false := by decide
    simp [backticked_eq, hdoubled, hquote]

theorem countP_pathPart (cs : List Char) :
    (pathPart cs).countP Text.isBlank = cs.countP Text.isBlank := by
  have hquote : Text.isBlank '"' = false := by decide
  simp [pathPart, hquote]

/-- A segment holds the white space of its name, and no other. -/
theorem countP_segment (cs : List Char) :
    (segment cs).countP Text.isBlank = cs.countP Text.isBlank := by
  obtain ⟨field, path, hcs⟩ := exists_field cs
  have hcount := congrArg (List.countP Text.isBlank) (joinLists_splitAtArrows cs)
  rw [hcs, countP_joinLists (by decide)] at hcount
  rw [segment_eq hcs, List.countP_append, countP_fieldText, ← hcount, List.map_cons, List.sum_cons]
  cases path with
  | nil => rfl
  | cons part parts =>
    have hfront : List.countP Text.isBlank ['-', '>', '\'', '$', '.'] = 0 := by decide
    have hend : List.countP Text.isBlank ['\''] = 0 := by decide
    rw [behindField, selectorText, List.countP_append, List.countP_append, pathText,
      countP_joinLists (by decide), hfront, hend, List.map_map, Nat.zero_add, Nat.add_zero]
    simp only [Function.comp_def, countP_pathPart]

/-! ## Words -/

theorem infix_joinLists {α : Type} (separator : List α) {piece : List α} {pieces : List (List α)}
    (h : piece ∈ pieces) : piece <:+: Text.joinLists separator pieces := by
  induction pieces with
  | nil => cases h
  | cons first pieces ih =>
    cases pieces with
    | nil =>
      obtain rfl := List.mem_singleton.mp h
      exact List.infix_rfl
    | cons next pieces =>
      rw [Text.joinLists_cons_cons]
      rcases List.mem_cons.mp h with rfl | h
      · exact ((List.prefix_append _ _).trans (List.prefix_append _ _)).isInfix
      · exact (ih h).trans (List.suffix_append _ _).isInfix

/-- A word without the separator stands in one of the pieces. -/
theorem infix_of_infix_joinLists {α : Type} {d : α} {word piece : List α} (hd : d ∉ word)
    {pieces : List (List α)} (h : word <:+: Text.joinLists [d] (piece :: pieces)) :
    ∃ piece' ∈ piece :: pieces, word <:+: piece' := by
  induction pieces generalizing piece with
  | nil => exact ⟨piece, List.mem_singleton_self piece, h⟩
  | cons next pieces ih =>
    rw [Text.joinLists_cons_cons, List.append_assoc, List.singleton_append] at h
    rcases infix_or_infix_of_infix_append_cons hd h with h | h
    · exact ⟨piece, List.mem_cons_self, h⟩
    · obtain ⟨piece', hmem, h⟩ := ih h
      exact ⟨piece', List.mem_cons_of_mem _ hmem, h⟩

theorem prefix_of_prefix_doubled {word cs : List Char} (hword : '\x60' ∉ word)
    (h : word <+: doubled cs) : word <+: cs := by
  induction cs generalizing word with
  | nil => exact h
  | cons c cs ih =>
    rcases word with _ | ⟨d, word⟩
    · exact List.nil_prefix
    · simp only [List.mem_cons, not_or] at hword
      rw [doubled_cons] at h
      split at h
      · exact absurd (List.cons_prefix_cons.mp h).1.symm hword.1
      · rw [List.singleton_append, List.cons_prefix_cons] at h
        exact List.cons_prefix_cons.mpr ⟨h.1, ih hword.2 h.2⟩

theorem infix_of_infix_doubled {word cs : List Char} (hword : '\x60' ∉ word)
    (h : word <:+: doubled cs) : word <:+: cs := by
  induction cs with
  | nil => exact h
  | cons c cs ih =>
    have hcs : doubled (c :: cs) = c :: ((if c = '\x60' then ['\x60'] else []) ++ doubled cs) := by
      rw [doubled_cons]
      split <;> simp_all
    rw [hcs] at h
    rcases List.infix_cons_iff.mp h with h | h
    · exact (prefix_of_prefix_doubled hword (hcs ▸ h)).isInfix
    · split at h
      · exact List.infix_cons (ih (infix_of_infix_cons hword h))
      · exact List.infix_cons (ih h)

theorem AliasWord.infix_of_infix_fieldText {word field : List Char} (hword : AliasWord word)
    (h : word <:+: fieldText field) : word <:+: field := by
  have hquote : '\x60' ∉ word := hword.not_mem (by decide) (by decide) (by decide)
  unfold fieldText at h
  split at h
  · exact h
  · rw [backticked_eq] at h
    rcases infix_or_infix_of_infix_append_cons hquote (infix_of_infix_cons hquote h) with h | h
    · exact infix_of_infix_doubled hquote h
    · exact h.trans List.nil_infix

theorem AliasWord.infix_of_infix_pathPart {word part : List Char} (hword : AliasWord word)
    (h : word <:+: pathPart part) : word <:+: part := by
  have hquote : '"' ∉ word := hword.not_mem (by decide) (by decide) (by decide)
  rcases infix_or_infix_of_infix_append_cons hquote (infix_of_infix_cons hquote h) with h | h
  · exact h
  · exact h.trans List.nil_infix

theorem AliasWord.infix_of_infix_pathText {word part : List Char} {parts : List (List Char)}
    (hword : AliasWord word) (h : word <:+: pathText (part :: parts)) :
    ∃ piece ∈ part :: parts, word <:+: piece := by
  have hdot : '.' ∉ word := hword.not_mem (by decide) (by decide) (by decide)
  obtain ⟨piece, hmem, hpiece⟩ := infix_of_infix_joinLists hdot h
  rw [← List.map_cons, List.mem_map] at hmem
  obtain ⟨part', hmem, rfl⟩ := hmem
  exact ⟨part', hmem, hword.infix_of_infix_pathPart hpiece⟩

/-- A segment holds the word that introduces an alias only when its name does. -/
theorem holdsAs_of_segment {cs : List Char} (h : holdsAs (segment cs) = true) :
    holdsAs cs = true := by
  obtain ⟨word, hword, h⟩ := holdsAs_iff.mp h
  obtain ⟨field, path, hcs⟩ := exists_field cs
  have hpieces : ∀ piece ∈ field :: path, word <:+: piece → holdsAs cs = true := by
    intro piece hmem hinfix
    have hpiece := infix_joinLists ['-', '>'] hmem
    rw [← hcs, joinLists_splitAtArrows] at hpiece
    exact holdsAs_iff.mpr ⟨word, hword, hinfix.trans hpiece⟩
  rw [segment_eq hcs] at h
  cases path with
  | nil =>
    rw [behindField, List.append_nil] at h
    exact hpieces field List.mem_cons_self (hword.infix_of_infix_fieldText h)
  | cons part parts =>
    have hminus : '-' ∉ word := hword.not_mem (by decide) (by decide) (by decide)
    have hdot : '.' ∉ word := hword.not_mem (by decide) (by decide) (by decide)
    have hquote : '\'' ∉ word := hword.not_mem (by decide) (by decide) (by decide)
    -- the word stands in the field, or behind the dollar sign in one of the parts
    rcases infix_or_infix_of_infix_append_cons hminus h with h | h
    · exact hpieces field List.mem_cons_self (hword.infix_of_infix_fieldText h)
    · have h' : word <:+: ['>', '\'', '$'] ++ '.' :: (pathText (part :: parts) ++ ['\'']) := h
      rcases infix_or_infix_of_infix_append_cons hdot h' with h | h
      · exact absurd (h.subset hword.space_mem) (by decide)
      · rcases infix_or_infix_of_infix_append_cons hquote h with h | h
        · obtain ⟨piece, hmem, hpiece⟩ := hword.infix_of_infix_pathText h
          exact hpieces piece (List.mem_cons_of_mem _ hmem) hpiece
        · exact absurd (h.subset hword.space_mem) (by decide)

end QueryClient.Identifier
