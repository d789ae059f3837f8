import QueryClient.Proofs.Sql.LexicalGrammar

/-!
# Format clauses

A format clause is the word `format`, then white space, then the name of a format. The format that
is found for a statement is the one that its first clause names, whatever stands in quotes and in
comments; a statement without a clause names none.
-/

namespace QueryClient.Sql

/-! ## Names of formats -/

/-- The word names the format, in any case. -/
def Names (word : List Char) (format : String) : Prop :=
  format ∈ outputFormats ∧ Text.lower (String.ofList word) = Text.lower format

/-- Where the keys tell all elements apart, looking up a key finds the element that has it. -/
theorem find?_key_eq_some_iff {α β : Type} [BEq β] [LawfulBEq β] {as : List α} {key : α → β}
    (hkey : ∀ a ∈ as, ∀ b ∈ as, key a = key b → a = b) {k : β} {a : α} :
    (as.find? fun a => key a == k) = some a ↔ a ∈ as ∧ k = key a := by
  constructor
  · intro h
    have ha : (key a == k) = true := List.find?_some (p := fun a => key a == k) h
    exact ⟨List.mem_of_find?_eq_some h, (eq_of_beq ha).symm⟩
  · rintro ⟨hmem, rfl⟩
    cases hfound : as.find? fun b => key b == key a with
    | none => exact absurd (beq_self_eq_true (key a)) (List.find?_eq_none.mp hfound a hmem)
    | some b =>
        have hb : (key b == key a) = true := List.find?_some (p := fun b => key b == key a) hfound
        rw [hkey b (List.mem_of_find?_eq_some hfound) a hmem (eq_of_beq hb)]

theorem formatNamed?_eq_some_iff {word : List Char} {format : String} :
    formatNamed? (String.ofList word) = some format ↔ Names word format :=
  find?_key_eq_some_iff (by decide +kernel)

/-! ## Words between the parts -/

/-- The words of the parts; `adjacent` tells what came since the last word. -/
def wordsAmong (adjacent : Bool) : List Span → List Word
  | [] => []
  | .quoted _ :: ss | .comment _ :: ss => wordsAmong false ss
  | .word cs :: ss => ⟨cs, adjacent⟩ :: wordsAmong true ss
  | .other c :: ss => wordsAmong (adjacent && Text.isBlank c) ss

theorem wordsFrom_eq (adjacent : Bool) (cs : List Char) :
    wordsFrom adjacent cs = wordsAmong adjacent (spans cs) := by
  fun_induction wordsFrom adjacent cs with
  | case1 => rw [spans, wordsAmong]
  | case2 adjacent c rest hquote _ ih => rw [spans, if_pos hquote, wordsAmong, ih]
  | case3 adjacent c rest hquote hline _ ih =>
      rw [spans, if_neg hquote, if_pos hline, wordsAmong, ih]
  | case4 adjacent c rest hquote hline hblock _ _ ih =>
      rw [spans, if_neg hquote, if_neg hline, if_pos hblock, wordsAmong, ih]
  | case5 adjacent c rest hquote hline hblock hword _ ih =>
      rw [spans, if_neg hquote, if_neg hline, if_neg hblock, if_pos hword, wordsAmong, ih]
  | case6 adjacent c rest hquote hline hblock hword ih =>
      rw [spans, if_neg hquote, if_neg hline, if_neg hblock, if_neg hword, wordsAmong, ih]

theorem Refilled.wordsAmong_eq {ss ts : List Span} (h : Refilled ss ts) (adjacent : Bool) :
    wordsAmong adjacent ts = wordsAmong adjacent ss := by
  induction h generalizing adjacent with
  | nil => rfl
  | quoted _ _ _ ih | comment _ _ _ ih | other _ ih => exact ih _
  | word _ ih => rw [wordsAmong, wordsAmong, ih]

/-! ## Clauses -/

/-- White space and nothing else. -/
def Blank (gap : List Span) : Prop :=
  ∀ s ∈ gap, ∃ c, s = .other c ∧ Text.isBlank c = true

/-- The parts begin with the name of a format, behind white space if there is any. -/
def NameComes (ss : List Span) (format : String) : Prop :=
  ∃ gap name behind, ss = gap ++ .word name :: behind ∧ Blank gap ∧ Names name format

/-- Behind the parts `before` come the word `format`, white space, and the name of a format. -/
def ClauseAt (ss before : List Span) (format : String) : Prop :=
  ∃ word gap name behind, ss = before ++ .word word :: (gap ++ .word name :: behind)
    ∧ Text.lower (String.ofList word) = "format" ∧ gap ≠ [] ∧ Blank gap ∧ Names name format

/-- No clause comes before this one. -/
def FirstClause (ss before : List Span) (format : String) : Prop :=
  ClauseAt ss before format
    ∧ ∀ before' format', ClauseAt ss before' format' → before.length ≤ before'.length

theorem clauseAt_cons {s : Span} {ss before : List Span} {format : String} :
    ClauseAt (s :: ss) before format
      ↔ before = [] ∧ ClauseAt (s :: ss) [] format
        ∨ ∃ before', before = s :: before' ∧ ClauseAt ss before' format := by
  cases before with
  | nil => simp
  | cons t before =>
      constructor
      · rintro ⟨word, gap, name, behind, h, hclause⟩
        rw [List.cons_append, List.cons.injEq] at h
        exact .inr ⟨before, by rw [h.1], word, gap, name, behind, h.2, hclause⟩
      · rintro (⟨h, -⟩ | ⟨before', h, word, gap, name, behind, rfl, hclause⟩)
        · cases h
        · exact ⟨word, gap, name, behind, by rw [h, List.cons_append], hclause⟩

/-- The first clause begins with the first part, or no clause begins there. -/
theorem firstClause_cons {s : Span} {ss : List Span} {format : String} :
    (∃ before, FirstClause (s :: ss) before format)
      ↔ ClauseAt (s :: ss) [] format
        ∨ (¬ ∃ format', ClauseAt (s :: ss) [] format')
          ∧ ∃ before, FirstClause ss before format := by
  constructor
  · rintro ⟨before, hclause, hfirst⟩
    obtain ⟨-, hnow⟩ | ⟨before, rfl, hlater⟩ := clauseAt_cons.mp hclause
    · exact .inl hnow
    · refine .inr ⟨fun ⟨format', hnow⟩ => ?_, before, hlater, fun before' format' h => ?_⟩
      · exact absurd (hfirst [] format' hnow) (by simp)
      · have hle := hfirst (s :: before') format' (clauseAt_cons.mpr (.inr ⟨before', rfl, h⟩))
        exact Nat.le_of_succ_le_succ hle
  · rintro (hnow | ⟨hnone, before, hclause, hfirst⟩)
    · exact ⟨[], hnow, fun before' _ _ => Nat.zero_le before'.length⟩
    · refine ⟨s :: before, clauseAt_cons.mpr (.inr ⟨before, rfl, hclause⟩), ?_⟩
      intro before' format' h
      obtain ⟨-, hnow⟩ | ⟨before', rfl, hlater⟩ := clauseAt_cons.mp h
      · exact absurd ⟨format', hnow⟩ hnone
      · exact Nat.succ_le_succ (hfirst before' format' hlater)

theorem not_clauseAt_nil {s : Span} (hs : ∀ cs, s ≠ .word cs) (ss : List Span) (format : String) :
    ¬ ClauseAt (s :: ss) [] format := by
  rintro ⟨word, gap, name, behind, h, -⟩
  cases h
  exact hs word rfl

theorem not_nameComes_nil (format : String) : ¬ NameComes [] format := by
  rintro ⟨gap, name, behind, h, -⟩
  exact absurd (congrArg List.length h) (by simp)

theorem nameComes_word {cs : List Char} {ss : List Span} {format : String} :
    NameComes (.word cs :: ss) format ↔ Names cs format := by
  constructor
  · rintro ⟨gap, name, behind, h, hgap, hname⟩
    cases gap with
    | nil => cases h; exact hname
    | cons s gap =>
        cases h
        obtain ⟨c, hc, -⟩ := hgap _ List.mem_cons_self
        cases hc
  · exact fun h => ⟨[], cs, ss, rfl, fun s hs => (List.not_mem_nil hs).elim, h⟩

theorem nameComes_other {c : Char} {ss : List Span} {format : String} :
    NameComes (.other c :: ss) format ↔ Text.isBlank c = true ∧ NameComes ss format := by
  constructor
  · rintro ⟨gap, name, behind, h, hgap, hname⟩
    cases gap with
    | nil => cases h
    | cons s gap =>
        cases h
        obtain ⟨hs, hgap⟩ := List.forall_mem_cons.mp hgap
        obtain ⟨d, hd, hblank⟩ := hs
        cases hd
        exact ⟨hblank, gap, name, behind, rfl, hgap, hname⟩
  · rintro ⟨hblank, gap, name, behind, rfl, hgap, hname⟩
    exact ⟨.other c :: gap, name, behind, rfl, List.forall_mem_cons.mpr ⟨⟨c, rfl, hblank⟩, hgap⟩,
      hname⟩

theorem not_nameComes {s : Span} (hword : ∀ cs, s ≠ .word cs) (hother : ∀ c, s ≠ .other c)
    (ss : List Span) (format : String) : ¬ NameComes (s :: ss) format := by
  rintro ⟨gap, name, behind, h, hgap, -⟩
  cases gap with
  | nil => cases h; exact hword name rfl
  | cons t gap =>
      cases h
      obtain ⟨c, hc, -⟩ := hgap _ List.mem_cons_self
      exact hother c hc

/-- Behind a word stands no word, so that white space comes between the two words of a clause. -/
theorem clauseAt_word {cs rest : List Char} {ss : List Span} {format : String}
    (hend : Unworded rest) (hlexed : Lexed rest ss) :
    ClauseAt (.word cs :: ss) [] format
      ↔ Word.isFormat ⟨cs, false⟩ = true ∧ NameComes ss format := by
  constructor
  · rintro ⟨word, gap, name, behind, h, hformat, -, hgap, hname⟩
    cases h
    exact ⟨beq_iff_eq.mpr hformat, gap, name, behind, rfl, hgap, hname⟩
  · rintro ⟨hformat, gap, name, behind, rfl, hgap, hname⟩
    refine ⟨cs, gap, name, behind, rfl, eq_of_beq hformat, ?_, hgap, hname⟩
    rintro rfl
    cases hlexed with
    | word hne hword =>
        obtain ⟨c, w, rfl⟩ := List.exists_cons_of_ne_nil hne
        exact absurd (hword c List.mem_cons_self) (by simp [hend c rfl])

/-! ## The search -/

/-- What the parts name, given whether the word `format` stands in front of them with nothing but
white space behind it: the format whose name comes now, or else that of the first clause. -/
def NamedFrom (armed : Prop) (ss : List Span) (format : String) : Prop :=
  armed ∧ NameComes ss format
    ∨ ¬ (armed ∧ ∃ format', NameComes ss format') ∧ ∃ before, FirstClause ss before format

section NamedFrom

variable {armed : Prop} {ss : List Span} {format : String}

theorem not_namedFrom_nil : ¬ NamedFrom armed [] format := by
  rintro (⟨-, h⟩ | ⟨-, before, ⟨word, gap, name, behind, h, -⟩, -⟩)
  · exact not_nameComes_nil format h
  · exact absurd (congrArg List.length h) (by simp)

theorem namedFrom_enclosed {s : Span} (hword : ∀ cs, s ≠ .word cs) (hother : ∀ c, s ≠ .other c) :
    NamedFrom armed (s :: ss) format ↔ NamedFrom False ss format := by
  simp only [NamedFrom, firstClause_cons, not_nameComes hword hother, not_clauseAt_nil hword,
    exists_false, and_false, false_and, not_false_eq_true, true_and, false_or]

theorem namedFrom_other {c : Char} :
    NamedFrom armed (.other c :: ss) format
      ↔ NamedFrom (armed ∧ Text.isBlank c = true) ss format := by
  have hword : ∀ cs, Span.other c ≠ .word cs := fun cs h => by cases h
  simp only [NamedFrom, firstClause_cons, nameComes_other, not_clauseAt_nil hword, exists_false,
    not_false_eq_true, true_and, false_or, exists_and_left, and_assoc]

theorem namedFrom_word {cs rest : List Char} (hend : Unworded rest) (hlexed : Lexed rest ss) :
    NamedFrom armed (.word cs :: ss) format
      ↔ armed ∧ Names cs format
        ∨ ¬ (armed ∧ ∃ format', Names cs format')
          ∧ NamedFrom (Word.isFormat ⟨cs, false⟩ = true) ss format := by
  simp only [NamedFrom, firstClause_cons, nameComes_word, clauseAt_word hend hlexed,
    exists_and_left]

end NamedFrom

theorem formatAfter?_eq_some_iff {cs : List Char} {ss : List Span} (hlexed : Lexed cs ss)
    (previous : Option Word) (adjacent : Bool) (format : String) :
    formatAfter? previous (wordsAmong adjacent ss) = some format
      ↔ NamedFrom ((adjacent && previous.any Word.isFormat) = true) ss format := by
  -- All that the search keeps of what it has read is whether it stands behind the word `format`.
  induction hlexed generalizing previous adjacent with
  | nil => simp [wordsAmong, formatAfter?, not_namedFrom_nil]
  | quoted _ _ ih | comment _ _ ih =>
      rw [wordsAmong, ih, namedFrom_enclosed (fun _ h => by cases h) (fun _ h => by cases h),
        Bool.false_and, Bool.false_eq_true]
  | other _ _ ih =>
      rw [wordsAmong, ih, namedFrom_other, Bool.and_right_comm, Bool.and_eq_true]
  | @word word rest ss _ _ hend hrest ih =>
      rw [wordsAmong, formatAfter?, namedFrom_word hend hrest]
      have hlater := ih (some ⟨word, adjacent⟩) true
      rw [Bool.true_and, Option.any_some] at hlater
      split
      · rename_i harmed
        simp only [harmed, true_and]
        cases hnamed : formatNamed? (String.ofList word) with
        | some found =>
            have hfound := formatNamed?_eq_some_iff.mp hnamed
            rw [← formatNamed?_eq_some_iff, hnamed]
            exact ⟨.inl, fun h => h.resolve_right fun hno => hno.1 ⟨found, hfound⟩⟩
        | none =>
            have hnone (f : String) : ¬ Names word f := by
              rw [← formatNamed?_eq_some_iff, hnamed]
              exact (Option.some_ne_none f).symm
            simp only [hnone, exists_false, not_false_eq_true, true_and, false_or]
            exact hlater
      · rename_i harmed
        simp only [harmed, Bool.false_eq_true, false_and, not_false_eq_true, true_and, false_or]
        exact hlater

theorem findFormat?_eq_some_iff {sql : String} {ss : List Span} (hlexed : Lexed sql.toList ss)
    {format : String} : findFormat? sql = some format ↔ ∃ before, FirstClause ss before format := by
  rw [findFormat?, wordsOf, wordsFrom_eq, ← hlexed.eq_spans, formatAfter?_eq_some_iff hlexed,
    NamedFrom]
  simp

theorem ClauseAt.exists_first {ss before : List Span} {format : String}
    (h : ClauseAt ss before format) : ∃ before' format', FirstClause ss before' format' := by
  induction ss generalizing before with
  | nil =>
      obtain ⟨word, gap, name, behind, h, -⟩ := h
      exact absurd (congrArg List.length h) (by simp)
  | cons s ss ih =>
      by_cases hnow : ∃ format', ClauseAt (s :: ss) [] format'
      · obtain ⟨format', hnow⟩ := hnow
        obtain ⟨before', hfirst⟩ := firstClause_cons.mpr (.inl hnow)
        exact ⟨before', format', hfirst⟩
      · obtain ⟨-, hhead⟩ | ⟨before, -, hrest⟩ := clauseAt_cons.mp h
        · exact absurd ⟨format, hhead⟩ hnow
        · obtain ⟨before', format', hlater⟩ := ih hrest
          obtain ⟨before'', hfirst⟩ := firstClause_cons.mpr (.inr ⟨hnow, before', hlater⟩)
          exact ⟨before'', format', hfirst⟩

/-! ## Statements -/

/-- Every statement has one reading, in which all words are as long as they can be. The format that
is found is the one that the first clause among its parts names, and none is found exactly if there
is no clause. Other texts in quotes and in comments leave the parts and the answer as they are. -/
theorem findFormat?_eq_first_clause (sql : String) :
    ∃ ss, (∀ ts, Lexed sql.toList ts ↔ ts = ss)
      ∧ (∀ before word behind, ss = before ++ .word word :: behind →
        IsMaximalWord (textOf before) word (textOf behind))
      ∧ (∀ format, findFormat? sql = some format ↔ ∃ before, FirstClause ss before format)
      ∧ (findFormat? sql = none ↔ ∀ before format, ¬ ClauseAt ss before format)
      ∧ ∀ ts, Refilled ss ts → Lexed (textOf ts) ts
        ∧ findFormat? (String.ofList (textOf ts)) = findFormat? sql := by
  have hlexed := lexed_spans sql.toList
  refine ⟨spans sql.toList, fun ts => lexed_iff, fun before word behind h => ?_,
    fun format => findFormat?_eq_some_iff hlexed, ?_, fun ts hts => ⟨(hts.lexed hlexed).1, ?_⟩⟩
  · exact Lexed.isMaximalWord (h ▸ hlexed)
  · constructor
    · intro hnone before format hclause
      obtain ⟨before', format', hfirst⟩ := hclause.exists_first
      rw [(findFormat?_eq_some_iff hlexed).mpr ⟨before', hfirst⟩] at hnone
      cases hnone
    · intro hno
      cases hfound : findFormat? sql with
      | none => rfl
      | some format =>
          obtain ⟨before, hfirst⟩ := (findFormat?_eq_some_iff hlexed).mp hfound
          exact absurd hfirst.1 (hno before format)
  · rw [findFormat?, findFormat?, wordsOf, wordsOf, wordsFrom_eq, wordsFrom_eq,
      String.toList_ofList, ← (hts.lexed hlexed).1.eq_spans, hts.wordsAmong_eq]

/-- A literal that spells a clause gives way to one that holds its own quote. -/
theorem findFormat?_other_literal :
    findFormat? "'format CSV' format json" = some "JSON"
      ∧ findFormat? "'it\\'s' format json" = some "JSON" := by
  have hold : findFormat? "'format CSV' format json" = some "JSON" := by decide +kernel
  obtain ⟨ss, hread, -, -, -, hother⟩ := findFormat?_eq_first_clause "'format CSV' format json"
  let behind : List Span := [.other ' ', .word "format".toList, .other ' ', .word "json".toList]
  have hss : ss = .quoted "'format CSV'".toList :: behind := by
    rw [(hread _).mp (lexed_spans _) |>.symm]
    decide +kernel
  have hquoted : IsQuoted "'it\\'s'".toList (textOf behind) :=
    @IsQuoted.closed '\'' "it\\'s".toList _ rfl
      (.plain (by decide) (by decide) (.plain (by decide) (by decide) (.escape
        (.plain (by decide) (by decide) .nil))))
  have hbehind : Refilled behind behind := .other (.word (.other (.word .nil)))
  have h := (hother (.quoted "'it\\'s'".toList :: behind)
    (hss ▸ .quoted rfl hquoted hbehind)).2
  exact ⟨hold, h.trans hold⟩

end QueryClient.Sql
