import QueryClient.Proofs.Sql.Inert
import QueryClient.Proofs.Sql.Region
import QueryClient.Query.Compile

/-!
# Names between quotes

A wrapped name is meant to be inert: what a caller puts into a name stays between the quotes that
are written around it. Doubling the backticks is enough for that unless the name holds a
backslash, which takes the next character along, and a path of a JSON selector is not protected at
all. The main statement tells for every name when its wrapped text is inert.
-/

namespace QueryClient.Identifier

open Sql

/-! ## Names that keep their quotes -/

/-- No backslash takes a backtick or the end of the name along. -/
def keepsBackticks : List Char → Bool
  | [] => true
  | ['\\'] => false
  | '\\' :: c :: rest => c != '\x60' && keepsBackticks rest
  | _ :: rest => keepsBackticks rest

/-- Every single quote stands behind a backslash. -/
def keepsSingleQuotes : List Char → Bool
  | [] => true
  | ['\\'] => true
  | '\\' :: _ :: rest => keepsSingleQuotes rest
  | c :: rest => c != '\'' && keepsSingleQuotes rest

/-- The segment keeps the quotes that it is written in. -/
def isContained (cs : List Char) : Bool :=
  cs == ['*'] ||
    match splitAtArrows cs with
    | field :: part :: parts =>
      (field == ['*'] || keepsBackticks field) && (part :: parts).all keepsSingleQuotes
    | _ => keepsBackticks cs

/-- The parts of a path into a JSON column. -/
def pathOf (cs : List Char) : List (List Char) :=
  (splitAtArrows cs).tail

/-! ## Backticks -/

/-- A name with its backticks doubled. -/
def doubled (cs : List Char) : List Char :=
  cs.flatMap fun c => if c = '\x60' then ['\x60', '\x60'] else [c]

theorem backticked_eq (cs : List Char) : backticked cs = '\x60' :: (doubled cs ++ ['\x60']) := rfl

theorem doubled_cons (c : Char) (cs : List Char) :
    doubled (c :: cs) = (if c = '\x60' then ['\x60', '\x60'] else [c]) ++ doubled cs := by
  simp [doubled]

/-- Outside a name a doubled backtick opens a region and closes it again. -/
theorem outside_run_doubled {r : Region} (h : r.Outside '\x60') (cs : List Char) :
    (r.run (doubled cs)).Outside '\x60' := by
  induction cs generalizing r with
  | nil => exact h
  | cons c cs ih =>
      rw [doubled_cons, Region.run_append]
      apply ih
      split
      · obtain ⟨hp, hq⟩ := h
        cases r with
        | code => exact Region.outside_code _
        | quoted quote =>
            have hne : '\x60' ≠ quote := by rintro rfl; exact hq rfl
            have hstep : (Region.quoted quote).run ['\x60', '\x60'] = .quoted quote := by
              simp [Region.step, hne]
            rw [hstep]
            exact ⟨hp, hq⟩
        | escaped quote =>
            have hne : '\x60' ≠ quote := by rintro rfl; exact hq rfl
            have hstep : (Region.escaped quote).run ['\x60', '\x60'] = .quoted quote := by
              simp [Region.step, hne]
            rw [hstep]
            exact Region.outside_quoted (hp quote rfl) hne.symm
      · rename_i hc
        exact h.step hc

/-- Inside a name one character is read as one, a doubled backtick as well. -/
theorem run_doubled_char {c : Char} (hc : c ≠ '\\') :
    (Region.quoted '\x60').run (if c = '\x60' then ['\x60', '\x60'] else [c]) = .quoted '\x60' := by
  by_cases hq : c = '\x60'
  · subst hq; decide
  · simp [hq, hc, Region.step]

theorem count_doubled_char (c : Char) :
    placeholderCount (.quoted '\x60') (if c = '\x60' then ['\x60', '\x60'] else [c]) = 0 := by
  by_cases hq : c = '\x60'
  · subst hq; decide
  · simp [hq, placeholderCount, Region.isPlaceholder]

/-- A name that keeps its backticks is read inside them to its end. -/
theorem run_doubled_of_keeps {cs : List Char} (h : keepsBackticks cs = true) :
    (Region.quoted '\x60').run (doubled cs) = .quoted '\x60'
      ∧ placeholderCount (.quoted '\x60') (doubled cs) = 0 := by
  fun_induction keepsBackticks cs with
  | case1 => exact ⟨rfl, rfl⟩
  | case2 => cases h
  | case3 c rest ih =>
      simp only [Bool.and_eq_true, bne_iff_ne, ne_eq] at h
      obtain ⟨hrun, hcount⟩ := ih h.2
      simp [doubled_cons, h.1, Region.step, placeholderCount, Region.isPlaceholder, hrun, hcount]
  | case4 c rest hlast hpair ih =>
      have hc : c ≠ '\\' := by
        rintro rfl
        cases rest with
        | nil => exact hlast rfl rfl
        | cons d rest => exact hpair d rest rfl rfl
      obtain ⟨hrun, hcount⟩ := ih h
      rw [doubled_cons, Region.run_append, placeholderCount_append, run_doubled_char hc,
        count_doubled_char, hrun, hcount]
      exact ⟨rfl, rfl⟩

/-- Otherwise its end is read behind a backslash or outside the name. -/
theorem run_doubled_of_not_keeps {cs : List Char} (h : keepsBackticks cs = false) :
    (Region.quoted '\x60').run (doubled cs) = .escaped '\x60'
      ∨ ((Region.quoted '\x60').run (doubled cs)).Outside '\x60' := by
  fun_induction keepsBackticks cs with
  | case1 => cases h
  | case2 => exact .inl (by decide)
  | case3 c rest ih =>
      rw [doubled_cons, doubled_cons, Region.run_append, Region.run_append]
      by_cases hc : c = '\x60'
      · -- the backslash takes the first of the two backticks, the second one ends the name
        subst hc
        exact .inr (outside_run_doubled (Region.outside_code _) rest)
      · have hstep : ((Region.quoted '\x60').step '\\').step c = .quoted '\x60' := by
          simp [Region.step]
        have hrest : keepsBackticks rest = false := by simpa [hc] using h
        simpa [hc, hstep] using ih hrest
  | case4 c rest hlast hpair ih =>
      have hc : c ≠ '\\' := by
        rintro rfl
        cases rest with
        | nil => exact hlast rfl rfl
        | cons d rest => exact hpair d rest rfl rfl
      rw [doubled_cons, Region.run_append, run_doubled_char hc]
      exact ih h

theorem inert_backticked {cs : List Char} (h : keepsBackticks cs = true) :
    Inert (backticked cs) := by
  obtain ⟨hrun, hcount⟩ := run_doubled_of_keeps h
  have hopen : Region.code.step '\x60' = .quoted '\x60' := by decide
  refine ⟨?_, ?_⟩
  · rw [backticked_eq, Region.run_cons, Region.run_append, hopen, hrun]
    decide
  · rw [backticked_eq, placeholderCount, placeholderCount_append, hopen, hrun, hcount]
    decide

/-- A name that does not keep its backticks leaves a quote open. -/
theorem run_backticked_of_not_keeps {cs : List Char} (h : keepsBackticks cs = false) :
    ∃ quote, isQuote quote = true ∧ Region.code.run (backticked cs) = .quoted quote := by
  have hopen : Region.code.step '\x60' = .quoted '\x60' := by decide
  rw [backticked_eq, Region.run_cons, Region.run_append, hopen]
  rcases run_doubled_of_not_keeps h with hr | hr
  · exact ⟨'\x60', by decide, by rw [hr]; rfl⟩
  · exact hr.quoted_step (by decide)

/-- A reader who comes to a name inside quotes does not leave it outside quotes. -/
theorem run_backticked_quoted (cs : List Char) {quote : Char} (hq : isQuote quote = true) :
    ∃ quote', isQuote quote' = true
      ∧ (Region.quoted quote).run (backticked cs) = .quoted quote' := by
  rw [backticked_eq, Region.run_cons, Region.run_append]
  have houtside : ((Region.quoted quote).step '\x60').Outside '\x60' := by
    by_cases heq : '\x60' = quote
    · subst heq; exact Region.outside_code _
    · have hstep : (Region.quoted quote).step '\x60' = .quoted quote := by
        simp [Region.step, heq]
      rw [hstep]
      exact Region.outside_quoted hq (Ne.symm heq)
  exact (outside_run_doubled houtside cs).quoted_step (by decide)

/-! ## Paths -/

/-- The parts of a path between double quotes, with dots between. -/
def pathText (parts : List (List Char)) : List Char :=
  Text.joinLists ['.'] (parts.map pathPart)

/-- A path as it stands behind its field. -/
def selectorText (parts : List (List Char)) : List Char :=
  ['-', '>', '\'', '$', '.'] ++ (pathText parts ++ ['\''])

theorem run_part_of_keeps {cs : List Char} (h : keepsSingleQuotes cs = true) :
    ((Region.quoted '\'').run cs = .quoted '\'' ∨ (Region.quoted '\'').run cs = .escaped '\'')
      ∧ placeholderCount (.quoted '\'') cs = 0 := by
  fun_induction keepsSingleQuotes cs with
  | case1 => exact ⟨.inl rfl, rfl⟩
  | case2 => exact ⟨.inr rfl, rfl⟩
  | case3 c rest ih =>
      simpa [Region.step, placeholderCount, Region.isPlaceholder] using ih h
  | case4 c rest hlast hpair ih =>
      simp only [Bool.and_eq_true, bne_iff_ne, ne_eq] at h
      have hc : c ≠ '\\' := by
        rintro rfl
        cases rest with
        | nil => exact hlast rfl rfl
        | cons d rest => exact hpair d rest rfl rfl
      simpa [Region.step, hc, h.1, placeholderCount, Region.isPlaceholder] using ih h.2

/-- Also a backslash at the end of a part does no harm: it takes the double quote along. -/
theorem run_pathPart_of_keeps {cs : List Char} (h : keepsSingleQuotes cs = true) :
    (Region.quoted '\'').run (pathPart cs) = .quoted '\''
      ∧ placeholderCount (.quoted '\'') (pathPart cs) = 0 := by
  obtain ⟨hrun, hcount⟩ := run_part_of_keeps h
  have hopen : (Region.quoted '\'').step '"' = .quoted '\'' := by decide
  have hquote : (Region.quoted '\'').isPlaceholder '"' = false := by decide
  simp only [pathPart, List.cons_append, Region.run_cons, Region.run_append, placeholderCount,
    placeholderCount_append, hopen, hquote, hcount]
  rcases hrun with hrun | hrun <;> rw [hrun] <;> decide

theorem run_pathText_of_keeps {parts : List (List Char)}
    (h : ∀ part ∈ parts, keepsSingleQuotes part = true) :
    (Region.quoted '\'').run (pathText parts) = .quoted '\''
      ∧ placeholderCount (.quoted '\'') (pathText parts) = 0 := by
  induction parts with
  | nil => exact ⟨rfl, rfl⟩
  | cons part parts ih =>
      simp only [List.forall_mem_cons] at h
      obtain ⟨hrun, hcount⟩ := run_pathPart_of_keeps h.1
      cases parts with
      | nil => exact ⟨hrun, hcount⟩
      | cons next parts =>
          obtain ⟨hrun', hcount'⟩ := ih h.2
          have htext : pathText (part :: next :: parts)
              = pathPart part ++ ('.' :: pathText (next :: parts)) := by
            simp [pathText, Text.joinLists]
          have hdot : (Region.quoted '\'').step '.' = .quoted '\'' := by decide
          have hplain : (Region.quoted '\'').isPlaceholder '.' = false := by decide
          rw [htext, Region.run_append, placeholderCount_append, hrun, hcount, Region.run_cons,
            placeholderCount, hdot, hplain, hrun', hcount']
          exact ⟨rfl, rfl⟩

theorem inert_selectorText {parts : List (List Char)}
    (h : ∀ part ∈ parts, keepsSingleQuotes part = true) : Inert (selectorText parts) := by
  obtain ⟨hrun, hcount⟩ := run_pathText_of_keeps h
  have hopen : Region.code.run ['-', '>', '\'', '$', '.'] = .quoted '\'' := by decide
  refine ⟨?_, ?_⟩
  · rw [selectorText, Region.run_append, Region.run_append, hopen, hrun]
    decide
  · rw [selectorText, placeholderCount_append, placeholderCount_append, hopen, hrun, hcount]
    decide

theorem not_mem_pathText {parts : List (List Char)} (h : ∀ part ∈ parts, '\'' ∉ part) :
    '\'' ∉ pathText parts := by
  induction parts with
  | nil => simp [pathText, Text.joinLists]
  | cons part parts ih =>
      simp only [List.forall_mem_cons] at h
      cases parts with
      | nil => simpa [pathText, Text.joinLists, pathPart] using h.1
      | cons next parts =>
          have hrest := ih h.2
          simp only [pathText, List.map_cons, Text.joinLists] at hrest ⊢
          simpa [pathPart, h.1] using hrest

theorem keepsSingleQuotes_of_not_mem {cs : List Char} (h : '\'' ∉ cs) :
    keepsSingleQuotes cs = true := by
  fun_induction keepsSingleQuotes cs with
  | case1 => rfl
  | case2 => rfl
  | case3 c rest ih => exact ih (by simp_all)
  | case4 c rest _ _ ih =>
      simp only [List.mem_cons, not_or] at h
      simp [Ne.symm h.1, ih h.2]

/-! ## Segments -/

/-- The text of a field in front of a path. -/
def fieldText (field : List Char) : List Char :=
  if field = ['*'] then field else backticked field

/-- A segment is a star, a selector with a path, or a name. -/
theorem segment_cases (cs : List Char) :
    (segment cs = ['*'] ∧ isContained cs = true)
    ∨ (∃ field part parts, pathOf cs = part :: parts
      ∧ segment cs = fieldText field ++ selectorText (part :: parts)
      ∧ isContained cs = ((field == ['*'] || keepsBackticks field)
        && (part :: parts).all keepsSingleQuotes))
    ∨ (segment cs = backticked cs ∧ isContained cs = keepsBackticks cs) := by
  by_cases hstar : cs = ['*']
  · exact .inl ⟨by simp [segment, hstar], by simp [isContained, hstar]⟩
  · refine .inr ?_
    unfold segment isContained pathOf
    rw [if_neg hstar, beq_eq_false_iff_ne.mpr hstar]
    match splitAtArrows cs with
    | field :: part :: parts =>
        refine .inl ⟨field, part, parts, rfl, ?_, by simp⟩
        simp [fieldText, selectorText, pathText]
    | [] => exact .inr ⟨rfl, by simp⟩
    | [_] => exact .inr ⟨rfl, by simp⟩

theorem inert_fieldText {field : List Char}
    (h : (field == ['*'] || keepsBackticks field) = true) : Inert (fieldText field) := by
  unfold fieldText
  split
  · rename_i hstar
    subst hstar
    decide
  · rename_i hstar
    simp only [beq_eq_false_iff_ne.mpr hstar, Bool.false_or] at h
    exact inert_backticked h

theorem inert_segment {cs : List Char} (h : isContained cs = true) : Inert (segment cs) := by
  rcases segment_cases cs with ⟨htext, -⟩ | ⟨field, part, parts, -, htext, hkeeps⟩ | ⟨htext, hkeeps⟩
  · rw [htext]; decide
  · rw [hkeeps, Bool.and_eq_true, List.all_eq_true] at h
    rw [htext]
    exact (inert_fieldText h.1).append (inert_selectorText h.2)
  · rw [htext]
    exact inert_backticked (hkeeps ▸ h)

/-- Behind a segment the reader never stands behind a backslash: its last character is a quote or
the star. -/
theorem settled_run_segment {r : Region} (h : r.Settled) (cs : List Char) :
    (r.run (segment cs)).Settled := by
  rcases segment_cases cs with ⟨htext, -⟩ | ⟨field, part, parts, -, htext, -⟩ | ⟨htext, -⟩
  · rw [htext]
    rcases h with rfl | ⟨quote, hq, rfl⟩
    · exact .inl (by decide)
    · have hstar : '*' ≠ quote := by rintro rfl; cases hq
      exact .inr ⟨quote, hq, by simp [Region.step, hstar]⟩
  · rw [htext, selectorText, ← List.append_assoc, ← List.append_assoc, Region.run_append]
    exact (h.proper.run _).settled_step (by decide)
  · rw [htext, backticked_eq, ← List.cons_append, Region.run_append]
    exact (h.proper.run _).settled_step (by decide)

/-- A path without single quotes that is read inside quotes leaves a quote open. -/
theorem run_selectorText_quoted {parts : List (List Char)} (h : ∀ part ∈ parts, '\'' ∉ part)
    {quote : Char} (hq : isQuote quote = true) :
    ∃ quote', isQuote quote' = true
      ∧ (Region.quoted quote).run (selectorText parts) = .quoted quote' := by
  have houtside : ((Region.quoted quote).run ['-', '>', '\'', '$', '.']).Outside '\'' := by
    simp only [isQuote, Bool.or_eq_true, beq_iff_eq] at hq
    rcases hq with (rfl | rfl) | rfl
    · exact Region.outside_code _
    · exact Region.outside_quoted (by decide) (by decide)
    · exact Region.outside_quoted (by decide) (by decide)
  rw [selectorText, Region.run_append, Region.run_append]
  exact (houtside.run (not_mem_pathText h)).quoted_step (by decide)

theorem run_fieldText_quoted (field : List Char) {quote : Char} (hq : isQuote quote = true) :
    ∃ quote', isQuote quote' = true
      ∧ (Region.quoted quote).run (fieldText field) = .quoted quote' := by
  unfold fieldText
  split
  · rename_i hstar
    have hne : '*' ≠ quote := by rintro rfl; cases hq
    exact ⟨quote, hq, by simp [hstar, Region.step, hne]⟩
  · exact run_backticked_quoted field hq

/-- Once a quote is left open, no segment without single quotes in its path sets that right. -/
theorem run_segment_quoted {cs : List Char} (h : ∀ part ∈ pathOf cs, '\'' ∉ part) {quote : Char}
    (hq : isQuote quote = true) :
    ∃ quote', isQuote quote' = true
      ∧ (Region.quoted quote).run (segment cs) = .quoted quote' := by
  rcases segment_cases cs with ⟨htext, -⟩ | ⟨field, part, parts, hpath, htext, -⟩ | ⟨htext, -⟩
  · have hne : '*' ≠ quote := by rintro rfl; cases hq
    exact ⟨quote, hq, by simp [htext, Region.step, hne]⟩
  · obtain ⟨quote', hq', hfield⟩ := run_fieldText_quoted field hq
    rw [htext, Region.run_append, hfield]
    exact run_selectorText_quoted (hpath ▸ h) hq'
  · rw [htext]
    exact run_backticked_quoted cs hq

/-- A segment that is not contained, for another reason than single quotes, leaves a quote open. -/
theorem run_segment_of_not_contained {cs : List Char} (h : ∀ part ∈ pathOf cs, '\'' ∉ part)
    (hcs : isContained cs = false) :
    ∃ quote, isQuote quote = true ∧ Region.code.run (segment cs) = .quoted quote := by
  rcases segment_cases cs with ⟨-, hkeeps⟩ | ⟨field, part, parts, hpath, htext, hkeeps⟩ |
    ⟨htext, hkeeps⟩
  · rw [hkeeps] at hcs; cases hcs
  · rw [hpath] at h
    have hparts : (part :: parts).all keepsSingleQuotes = true := by
      rw [List.all_eq_true]
      exact fun p hp => keepsSingleQuotes_of_not_mem (h p hp)
    rw [hkeeps, hparts, Bool.and_true, Bool.or_eq_false_iff, beq_eq_false_iff_ne] at hcs
    obtain ⟨quote, hq, hfield⟩ := run_backticked_of_not_keeps hcs.2
    rw [htext, fieldText, if_neg hcs.1, Region.run_append, hfield]
    exact run_selectorText_quoted h hq
  · rw [htext]
    exact run_backticked_of_not_keeps (hkeeps ▸ hcs)

/-! ## Reading segment by segment -/

/-- The region behind wrapped segments that are read one after another; none when a placeholder
is met on the way. -/
def through (r : Region) : List (List Char) → Option Region
  | [] => some r
  | cs :: rest =>
    if placeholderCount r (segment cs) = 0 then through (r.run (segment cs)) rest else none

theorem through_of_contained {segments : List (List Char)}
    (h : ∀ cs ∈ segments, isContained cs = true) : through .code segments = some .code := by
  induction segments with
  | nil => rfl
  | cons cs rest ih =>
      simp only [List.forall_mem_cons] at h
      have hcs := inert_segment h.1
      rw [through, if_pos hcs.count, hcs.run]
      exact ih h.2

theorem through_quoted {segments : List (List Char)}
    (h : ∀ cs ∈ segments, ∀ part ∈ pathOf cs, '\'' ∉ part) {quote : Char}
    (hq : isQuote quote = true) : through (.quoted quote) segments ≠ some .code := by
  induction segments generalizing quote with
  | nil => simp [through]
  | cons cs rest ih =>
      simp only [List.forall_mem_cons] at h
      obtain ⟨quote', hq', hrun⟩ := run_segment_quoted h.1 hq
      rw [through, hrun]
      split
      · exact ih h.2 hq'
      · simp

theorem contained_of_through {segments : List (List Char)}
    (h : ∀ cs ∈ segments, ∀ part ∈ pathOf cs, '\'' ∉ part)
    (hthrough : through .code segments = some .code) : ∀ cs ∈ segments, isContained cs = true := by
  induction segments with
  | nil => simp
  | cons cs rest ih =>
      simp only [List.forall_mem_cons] at h
      cases hcs : isContained cs with
      | true =>
          have hinert := inert_segment hcs
          rw [through, if_pos hinert.count, hinert.run] at hthrough
          exact List.forall_mem_cons.mpr ⟨hcs, ih h.2 hthrough⟩
      | false =>
          obtain ⟨quote, hq, hrun⟩ := run_segment_of_not_contained h.1 hcs
          rw [through, hrun] at hthrough
          split at hthrough
          · exact absurd hthrough (through_quoted h.2 hq)
          · cases hthrough

/-! ## Names put together from segments -/

/-- What stands between two segments: a dot, or the word that introduces an alias. -/
inductive Separator : List Char → Prop
  | dot : Separator ['.']
  | alias : Separator " as ".toList

/-- The text is that of the segments with separators between. -/
inductive Spelled : List (List Char) → List Char → Prop
  | one (cs) : Spelled [cs] (segment cs)
  | more {segments out separator} (cs) (hs : Separator separator) (h : Spelled segments out) :
      Spelled (cs :: segments) (segment cs ++ (separator ++ out))

theorem Spelled.append {ss ts : List (List Char)} {out out' separator : List Char}
    (h : Spelled ss out) (hs : Separator separator) (h' : Spelled ts out') :
    Spelled (ss ++ ts) (out ++ (separator ++ out')) := by
  induction h with
  | one cs => exact .more cs hs h'
  | more cs hs' _ ih =>
      rw [List.append_assoc, List.append_assoc]
      exact .more cs hs' ih

/-- A separator is the same text inside quotes and outside. -/
theorem Separator.run_eq {separator : List Char} (hs : Separator separator) {r : Region}
    (h : r.Settled) : r.run separator = r ∧ placeholderCount r separator = 0 := by
  rcases h with rfl | ⟨quote, hq, rfl⟩
  · cases hs <;> decide
  · simp only [isQuote, Bool.or_eq_true, beq_iff_eq] at hq
    rcases hq with (rfl | rfl) | rfl <;> cases hs <;> decide

theorem Spelled.through_eq {segments : List (List Char)} {out : List Char}
    (h : Spelled segments out) {r : Region} (hr : r.Settled) :
    through r segments = if placeholderCount r out = 0 then some (r.run out) else none := by
  induction h generalizing r with
  | one cs => rfl
  | more cs hs _ ih =>
      have hcs := settled_run_segment hr cs
      obtain ⟨hrun, hcount⟩ := hs.run_eq hcs
      rw [through, ih hcs, Region.run_append, Region.run_append, placeholderCount_append,
        placeholderCount_append, hrun, hcount]
      split
      · rename_i h₀
        simp [h₀]
      · rename_i h₀
        rw [if_neg (by omega)]

theorem Spelled.inert_iff {segments : List (List Char)} {out : List Char}
    (h : Spelled segments out) : Inert out ↔ through .code segments = some .code := by
  rw [h.through_eq (.inl rfl)]
  constructor
  · intro hi
    rw [if_pos hi.count, hi.run]
  · intro hi
    split at hi
    · rename_i hcount
      exact ⟨Option.some.inj hi, hcount⟩
    · cases hi

/-! ## Segments of a name -/

/-- The segments of a table that qualifies a column. -/
def qualifierSegments (tablePrefix cs : List Char) : List (List Char) :=
  (nameAndAlias (tablePrefix ++ cs)).1
    :: ((nameAndAlias (tablePrefix ++ cs)).2.map (tablePrefix ++ ·)).toList

/-- The segments of a name without alias. -/
def qualifiedSegments (tablePrefix cs : List Char) : List (List Char) :=
  match Text.splitAtElement '.' cs with
  | first :: second :: rest => qualifierSegments tablePrefix first ++ second :: rest
  | _ => [cs]

/-- The segments of a name, as they are written between quotes. -/
def segmentsOf (tablePrefix : List Char) (prefixAlias : Bool) (cs : List Char) :
    List (List Char) :=
  let label := (nameAndAlias cs).2
  qualifiedSegments tablePrefix (nameAndAlias cs).1
    ++ (if prefixAlias then label.map (tablePrefix ++ ·) else label).toList

theorem mem_of_mem_cutAlias {cs name label : List Char} (h : cutAlias? cs = some (name, label))
    {c : Char} (hc : c ∈ name) : c ∈ cs := by
  induction cs generalizing name with
  | nil => cases h
  | cons d rest ih =>
      rw [cutAlias?] at h
      cases halias : aliasAt? (d :: rest) with
      | some found =>
          simp only [halias, Option.map_some, Option.orElse_some, Option.some.injEq,
            Prod.mk.injEq] at h
          simp [← h.1] at hc
      | none =>
          simp only [halias, Option.map_none, Option.orElse_none] at h
          obtain ⟨⟨name', label'⟩, hcut, heq⟩ := Option.map_eq_some_iff.mp h
          simp only [Prod.mk.injEq] at heq
          obtain ⟨rfl, rfl⟩ := heq
          rcases List.mem_cons.mp hc with rfl | hc
          · exact List.mem_cons_self
          · exact List.mem_cons_of_mem _ (ih hcut hc)

theorem mem_of_mem_nameAndAlias {cs : List Char} {c : Char} (hc : c ∈ (nameAndAlias cs).1) :
    c ∈ cs := by
  unfold nameAndAlias at hc
  split at hc
  · split at hc
    · rename_i hcut; exact mem_of_mem_cutAlias hcut hc
    · exact hc
  · exact hc

theorem spelled_withAlias {segments : List (List Char)} {name : List Char}
    (h : Spelled segments name) (label : Option (List Char)) :
    Spelled (segments ++ label.toList) (withAlias name label) := by
  cases label with
  | none => simpa [withAlias] using h
  | some label =>
      have happend := h.append .alias (.one label)
      rwa [← List.append_assoc] at happend

theorem spelled_joinLists (cs : List Char) (rest : List (List Char)) :
    Spelled (cs :: rest) (Text.joinLists ['.'] ((cs :: rest).map segment)) := by
  induction rest generalizing cs with
  | nil => exact .one cs
  | cons next rest ih =>
      have hmore := Spelled.more cs .dot (ih next)
      rwa [← List.append_assoc] at hmore

theorem namedBy_eq (table : List Char → Except Fault (List Char)) (tablePrefix : List Char)
    (prefixAlias : Bool) (cs : List Char) :
    namedBy table tablePrefix prefixAlias cs = do
      return withAlias (← qualifiedBy table (nameAndAlias cs).1)
        (if prefixAlias then (nameAndAlias cs).2.map (tablePrefix ++ ·)
          else (nameAndAlias cs).2) := rfl

theorem qualifiedBy_of_not_mem {cs : List Char} (h : '.' ∉ cs)
    (table : List Char → Except Fault (List Char)) : qualifiedBy table cs = .ok (segment cs) := by
  simp only [qualifiedBy, Text.splitAtElement_of_not_mem h]

/-- A prefix without dots never makes a table into a qualified name. -/
theorem qualifier_spelled {tablePrefix cs : List Char} (hp : '.' ∉ tablePrefix) (hcs : '.' ∉ cs)
    (depth : Nat) : ∃ out, qualifier tablePrefix (depth + 1) cs = .ok out
      ∧ Spelled (qualifierSegments tablePrefix cs) out := by
  have hname : '.' ∉ (nameAndAlias (tablePrefix ++ cs)).1 := by
    intro hmem
    rcases List.mem_append.mp (mem_of_mem_nameAndAlias hmem) with h | h
    · exact hp h
    · exact hcs h
  rw [qualifier, namedBy_eq, qualifiedBy_of_not_mem hname]
  exact ⟨_, rfl, spelled_withAlias (.one _) _⟩

theorem qualifiedBy_spelled {tablePrefix : List Char} (hp : '.' ∉ tablePrefix) (cs : List Char) :
    ∃ out, qualifiedBy (qualifier tablePrefix qualifierDepth) cs = .ok out
      ∧ Spelled (qualifiedSegments tablePrefix cs) out := by
  unfold qualifiedBy qualifiedSegments
  match heq : Text.splitAtElement '.' cs with
  | first :: second :: rest =>
    have hfirst : '.' ∉ first := Text.not_mem_of_mem_splitAtElement (heq ▸ List.mem_cons_self)
    obtain ⟨table, hok, hspelled⟩ := qualifier_spelled hp hfirst 1
    have happend := hspelled.append .dot (spelled_joinLists second rest)
    rw [← List.append_assoc] at happend
    exact ⟨_, by simp only [qualifierDepth, hok]; rfl, happend⟩
  | [] | [_] => exact ⟨_, rfl, .one cs⟩

theorem named_spelled {tablePrefix : List Char} (hp : '.' ∉ tablePrefix) (prefixAlias : Bool)
    (cs : List Char) : ∃ out, named tablePrefix prefixAlias cs = .ok out
      ∧ Spelled (segmentsOf tablePrefix prefixAlias cs) out := by
  obtain ⟨name, hok, hspelled⟩ := qualifiedBy_spelled hp (nameAndAlias cs).1
  rw [named, namedBy_eq, hok]
  exact ⟨_, rfl, spelled_withAlias hspelled _⟩

/-! ## When a wrapped name is inert -/

/-- Tells of a text spelled from segments when it is inert. It always is when all its segments are
contained. Where no path holds a single quote, that is the only way; single quotes in several
places may close each other, so that in general a reader decides. -/
structure InertExactly (segments : List (List Char)) (text : List Char) : Prop where
  inert_iff : Inert text ↔ through .code segments = some .code
  inert_of_contained : (∀ cs ∈ segments, isContained cs = true) → Inert text
  contained_of_inert : (∀ cs ∈ segments, ∀ part ∈ pathOf cs, '\'' ∉ part) → Inert text →
    ∀ cs ∈ segments, isContained cs = true

theorem Spelled.inertExactly {segments : List (List Char)} {out : List Char}
    (h : Spelled segments out) : InertExactly segments out where
  inert_iff := h.inert_iff
  inert_of_contained hcs := h.inert_iff.mpr (through_of_contained hcs)
  contained_of_inert hquotes hinert := contained_of_through hquotes (h.inert_iff.mp hinert)

theorem name_spelled (g : Grammar) (hg : '.' ∉ g.tablePrefix.toList) (prefixAlias : Bool)
    (s : String) : ∃ out, g.name prefixAlias (.text s) = .ok out
      ∧ Spelled (segmentsOf g.tablePrefix.toList prefixAlias s.toList) out.toList := by
  obtain ⟨out, hok, hspelled⟩ := named_spelled hg prefixAlias s.toList
  refine ⟨String.ofList out, by rw [Grammar.name, ofName, hok]; rfl, ?_⟩
  rwa [String.toList_ofList]

theorem table_spelled (g : Grammar) (hg : '.' ∉ g.tablePrefix.toList) (s : String) :
    ∃ out, g.table (.text s) = .ok out ∧ Spelled
      (segmentsOf g.tablePrefix.toList true (g.tablePrefix.toList ++ s.toList)) out.toList := by
  obtain ⟨out, hok, hspelled⟩ := named_spelled hg true (g.tablePrefix.toList ++ s.toList)
  refine ⟨String.ofList out, by rw [Grammar.table, ofTable, table, hok]; rfl, ?_⟩
  rwa [String.toList_ofList]

/-- Names and tables can always be written, and are inert exactly when their segments say so. -/
theorem wrapped_name_inertExactly (g : Grammar) (hg : '.' ∉ g.tablePrefix.toList) (s : String) :
    (∀ prefixAlias, ∃ out, g.name prefixAlias (.text s) = .ok out
      ∧ InertExactly (segmentsOf g.tablePrefix.toList prefixAlias s.toList) out.toList)
    ∧ ∃ out, g.table (.text s) = .ok out ∧ InertExactly
      (segmentsOf g.tablePrefix.toList true (g.tablePrefix.toList ++ s.toList)) out.toList := by
  constructor
  · intro prefixAlias
    obtain ⟨out, hok, hspelled⟩ := name_spelled g hg prefixAlias s
    exact ⟨out, hok, hspelled.inertExactly⟩
  · obtain ⟨out, hok, hspelled⟩ := table_spelled g hg s
    exact ⟨out, hok, hspelled.inertExactly⟩

/-- A name with a backtick, a path with an escaped quote, and a prefix for the table and its
alias. -/
theorem wrapped_name_inertExactly_selector :
    let g : Grammar := { tablePrefix := "p_" }
    let name := "`p_t`.`a``b`->'$.\"c\\'d\"' as `p_x`"
    '.' ∉ g.tablePrefix.toList ∧ g.name true (.text "t.a`b->c\\'d as x") = .ok name
      ∧ Inert name.toList := by
  intro g name
  have hg : '.' ∉ g.tablePrefix.toList := by decide
  obtain ⟨out, hok, hexact⟩ := (wrapped_name_inertExactly g hg "t.a`b->c\\'d as x").1 true
  have hname : g.name true (.text "t.a`b->c\\'d as x") = .ok name := by
    simp only [g, name, Grammar.name]
    rfl
  have hsegments : segmentsOf "p_".toList true "t.a`b->c\\'d as x".toList
      = ["p_t".toList, "a`b->c\\'d".toList, "p_x".toList] := rfl
  have hcontained : ∀ cs ∈ segmentsOf "p_".toList true "t.a`b->c\\'d as x".toList,
      isContained cs = true := by rw [hsegments]; decide
  rw [hname, Except.ok.injEq] at hok
  exact ⟨hg, hname, hok ▸ hexact.inert_of_contained hcontained⟩

/-- A backslash takes the closing backtick along, and a single quote ends the path it stands in. -/
theorem wrapped_name_not_inert :
    let g : Grammar := {}
    (g.name false (.text "a\\") = .ok "`a\\`" ∧ ¬ Inert "`a\\`".toList)
    ∧ (g.name false (.text "a->b'c") = .ok "`a`->'$.\"b'c\"'"
      ∧ ¬ Inert "`a`->'$.\"b'c\"'".toList) :=
  ⟨⟨rfl, by decide⟩, ⟨rfl, by decide⟩⟩

end QueryClient.Identifier
