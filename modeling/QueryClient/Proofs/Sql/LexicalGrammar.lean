import QueryClient.Proofs.Sql.Place
import QueryClient.Proofs.Sql.Spans

/-!
# The lexical grammar of a statement

What a quoted region, a comment, a word and a single character of a statement are, told from the
text alone. Every text has exactly one reading by this grammar, and cutting it into its parts finds
it. What stands in quotes and comments can be exchanged without any effect on the other parts.
-/

namespace QueryClient.Sql

/-! ## The grammar -/

/-- The characters of a quoted region: a backslash takes the next character along, and the quote
stands behind a backslash only. -/
inductive Enclosed (quote : Char) : List Char → Prop
  | nil : Enclosed quote []
  | escape {c : Char} {cs : List Char} (h : Enclosed quote cs) : Enclosed quote ('\\' :: c :: cs)
  | plain {c : Char} {cs : List Char} (hescape : c ≠ '\\') (hquote : c ≠ quote)
      (h : Enclosed quote cs) : Enclosed quote (c :: cs)

/-- A quoted region in front of a rest. Without its second quote it goes to the end of the text,
where a backslash may stand alone. -/
inductive IsQuoted : List Char → List Char → Prop
  | closed {quote : Char} {body rest : List Char} (hquote : isQuote quote = true)
      (hbody : Enclosed quote body) : IsQuoted (quote :: (body ++ [quote])) rest
  | unclosed {quote : Char} {body : List Char} (hquote : isQuote quote = true)
      (hbody : Enclosed quote body) : IsQuoted (quote :: body) []
  | escaping {quote : Char} {body : List Char} (hquote : isQuote quote = true)
      (hbody : Enclosed quote body) : IsQuoted (quote :: (body ++ ['\\'])) []

/-- A comment in front of a rest. Without its end it goes to the end of the text. -/
inductive IsComment : List Char → List Char → Prop
  | line {body rest : List Char} (hbody : '\n' ∉ body) :
      IsComment ('-' :: '-' :: (body ++ ['\n'])) rest
  | lastLine {body : List Char} (hbody : '\n' ∉ body) : IsComment ('-' :: '-' :: body) []
  | block {body rest : List Char} (hbody : ¬ ['*', '/'] <:+: body) :
      IsComment ('/' :: '*' :: (body ++ ['*', '/'])) rest
  | unclosed {body : List Char} (hbody : ¬ ['*', '/'] <:+: body) : IsComment ('/' :: '*' :: body) []

/-- A character in front of a rest that begins no quoted region, no comment and no word. -/
structure IsOther (c : Char) (rest : List Char) : Prop where
  quote : isQuote c = false
  word : Text.isWordChar c = false
  line : c = '-' → rest.head? ≠ some '-'
  block : c = '/' → rest.head? ≠ some '*'

/-- The parts of a text. -/
inductive Lexed : List Char → List Span → Prop
  | nil : Lexed [] []
  | quoted {cs rest : List Char} {ss : List Span} (h : IsQuoted cs rest) (hrest : Lexed rest ss) :
      Lexed (cs ++ rest) (.quoted cs :: ss)
  | comment {cs rest : List Char} {ss : List Span} (h : IsComment cs rest) (hrest : Lexed rest ss) :
      Lexed (cs ++ rest) (.comment cs :: ss)
  | word {cs rest : List Char} {ss : List Span} (hne : cs ≠ [])
      (hword : ∀ c ∈ cs, Text.isWordChar c = true) (hend : Unworded rest) (hrest : Lexed rest ss) :
      Lexed (cs ++ rest) (.word cs :: ss)
  | other {c : Char} {rest : List Char} {ss : List Span} (h : IsOther c rest)
      (hrest : Lexed rest ss) : Lexed (c :: rest) (.other c :: ss)

theorem Lexed.textOf_eq {cs : List Char} {ss : List Span} (h : Lexed cs ss) : textOf ss = cs := by
  induction h with
  | nil => rfl
  | quoted _ _ ih | comment _ _ ih | word _ _ _ _ ih => rw [textOf_cons, ih, Span.text]
  | other _ _ ih => rw [textOf_cons, ih, Span.text, List.singleton_append]

/-! ## Quoted regions -/

theorem afterQuoted_cons {c : Char} (h : c ≠ '\\') (quote : Char) (cs : List Char) :
    afterQuoted quote (c :: cs) = if c == quote then cs else afterQuoted quote cs := by
  rw [afterQuoted]
  · exact fun hc => absurd hc h
  · exact fun _ _ hc => absurd hc h

theorem Enclosed.afterQuoted_append {quote : Char} {body : List Char} (h : Enclosed quote body)
    (rest : List Char) : afterQuoted quote (body ++ rest) = afterQuoted quote rest := by
  induction h with
  | nil => rfl
  | escape _ ih => exact ih
  | plain hescape hquote _ ih =>
      rw [List.cons_append, afterQuoted_cons hescape, if_neg (by simpa using hquote), ih]

theorem ne_backslash_of_isQuote {c : Char} (h : isQuote c = true) : c ≠ '\\' := by
  rintro rfl
  cases h

theorem IsQuoted.exists_cons {text rest : List Char} (h : IsQuoted text rest) :
    ∃ quote cs, text = quote :: cs ∧ isQuote quote = true
      ∧ afterQuoted quote (cs ++ rest) = rest := by
  cases h with
  | closed hquote hbody =>
      refine ⟨_, _, rfl, hquote, ?_⟩
      rw [List.append_assoc, hbody.afterQuoted_append, List.singleton_append,
        afterQuoted_cons (ne_backslash_of_isQuote hquote), if_pos (beq_self_eq_true _)]
  | unclosed hquote hbody => exact ⟨_, _, rfl, hquote, hbody.afterQuoted_append []⟩
  | escaping hquote hbody =>
      refine ⟨_, _, rfl, hquote, ?_⟩
      rw [List.append_assoc, hbody.afterQuoted_append]
      rfl

theorem upTo_append_self (before after : List Char) : upTo after (before ++ after) = before := by
  simp [upTo]

theorem upTo_nil (cs : List Char) : upTo [] cs = cs := by
  simp [upTo]

/-- Behind a quote the text falls into a quoted region and the rest. -/
theorem isQuoted_upTo {quote : Char} (hquote : isQuote quote = true) (cs : List Char) :
    IsQuoted (quote :: upTo (afterQuoted quote cs) cs) (afterQuoted quote cs) := by
  -- The search for the second quote finds it, or the text ends: outright or behind a backslash.
  have hsplit : ∃ body, Enclosed quote body
      ∧ (cs = body ++ [quote] ++ afterQuoted quote cs
        ∨ afterQuoted quote cs = [] ∧ (cs = body ∨ cs = body ++ ['\\'])) := by
    fun_induction afterQuoted quote cs with
    | case1 => exact ⟨[], .nil, .inr ⟨rfl, .inl rfl⟩⟩
    | case2 => exact ⟨[], .nil, .inr ⟨rfl, .inr rfl⟩⟩
    | case3 c rest ih =>
        obtain ⟨body, hbody, h | ⟨hnil, rfl | rfl⟩⟩ := ih
        · exact ⟨_, .escape hbody, .inl (congrArg ('\\' :: c :: ·) h)⟩
        · exact ⟨_, .escape hbody, .inr ⟨hnil, .inl rfl⟩⟩
        · exact ⟨_, .escape hbody, .inr ⟨hnil, .inr rfl⟩⟩
    | case4 c rest _ _ hc =>
        cases eq_of_beq hc
        exact ⟨[], .nil, .inl rfl⟩
    | case5 c rest hlone hpair hc ih =>
        have hescape := Search.not_backslash hlone hpair
        have hne : c ≠ quote := fun h => hc (beq_iff_eq.mpr h)
        obtain ⟨body, hbody, h | ⟨hnil, rfl | rfl⟩⟩ := ih
        · exact ⟨_, .plain hescape hne hbody, .inl (congrArg (c :: ·) h)⟩
        · exact ⟨_, .plain hescape hne hbody, .inr ⟨hnil, .inl rfl⟩⟩
        · exact ⟨_, .plain hescape hne hbody, .inr ⟨hnil, .inr rfl⟩⟩
  obtain ⟨body, hbody, h | ⟨hnil, rfl | rfl⟩⟩ := hsplit
  · generalize afterQuoted quote cs = rest at h ⊢
    subst h
    rw [upTo_append_self]
    exact .closed hquote hbody
  · rw [hnil, upTo_nil]
    exact .unclosed hquote hbody
  · rw [hnil, upTo_nil]
    exact .escaping hquote hbody

/-! ## Comments -/

theorem afterLine_append {body : List Char} (h : '\n' ∉ body) (rest : List Char) :
    afterLine (body ++ rest) = afterLine rest := by
  induction body with
  | nil => rfl
  | cons c body ih =>
      rw [List.mem_cons, not_or] at h
      rw [List.cons_append, afterLine, if_neg (by simpa using Ne.symm h.1), ih h.2]

theorem afterBlock_cons {c : Char} {cs : List Char} (h : ¬ ['*', '/'] <+: c :: cs) :
    afterBlock (c :: cs) = afterBlock cs := by
  rw [afterBlock]
  rintro rest rfl rfl
  exact h ⟨rest, rfl⟩

theorem not_infix_cons {pattern body : List Char} {c : Char} (hhead : ¬ pattern <+: c :: body)
    (h : ¬ pattern <:+: body) : ¬ pattern <:+: c :: body := by
  rw [List.infix_cons_iff]
  exact not_or.mpr ⟨hhead, h⟩

/-- A text with a star and a slash behind it holds them nowhere else if the text itself does not. -/
theorem afterBlock_append {body : List Char} (h : ¬ ['*', '/'] <:+: body) (rest : List Char) :
    afterBlock (body ++ '*' :: '/' :: rest) = rest := by
  induction body with
  | nil => rfl
  | cons c body ih =>
      have hbody : ¬ ['*', '/'] <:+: body :=
        fun hin => h (hin.trans (List.suffix_cons c body).isInfix)
      rw [List.cons_append, afterBlock_cons, ih hbody]
      -- A mark here would lie within the text, since a star follows the text, and no slash.
      rintro ⟨behind, hbehind⟩
      cases body with
      | nil => simp at hbehind
      | cons d body =>
          simp only [List.cons_append, List.nil_append, List.cons.injEq] at hbehind
          obtain ⟨rfl, rfl, -⟩ := hbehind
          exact h (List.prefix_append ['*', '/'] body).isInfix

theorem afterBlock_of_not_infix {body : List Char} (h : ¬ ['*', '/'] <:+: body) :
    afterBlock body = [] := by
  induction body with
  | nil => rfl
  | cons c body ih =>
      rw [afterBlock_cons fun hhead => h hhead.isInfix]
      exact ih fun hin => h (hin.trans (List.suffix_cons c body).isInfix)

theorem IsComment.exists_cons {text rest : List Char} (h : IsComment text rest) :
    (∃ cs, text = '-' :: '-' :: cs ∧ afterLine (cs ++ rest) = rest)
      ∨ ∃ cs, text = '/' :: '*' :: cs ∧ afterBlock (cs ++ rest) = rest := by
  cases h with
  | line hbody =>
      refine .inl ⟨_, rfl, ?_⟩
      rw [List.append_assoc, afterLine_append hbody]
      rfl
  | lastLine hbody => exact .inl ⟨_, rfl, afterLine_append hbody []⟩
  | block hbody =>
      refine .inr ⟨_, rfl, ?_⟩
      rw [List.append_assoc]
      exact afterBlock_append hbody rest
  | unclosed hbody =>
      refine .inr ⟨_, rfl, ?_⟩
      rw [List.append_nil, afterBlock_of_not_infix hbody]

/-- Behind two minus signs the text falls into a comment and the rest. -/
theorem isComment_line (cs : List Char) :
    IsComment ('-' :: '-' :: upTo (afterLine cs) cs) (afterLine cs) := by
  have hsplit : ∃ body, '\n' ∉ body
      ∧ (cs = body ++ ['\n'] ++ afterLine cs ∨ afterLine cs = [] ∧ cs = body) := by
    fun_induction afterLine cs with
    | case1 => exact ⟨[], List.not_mem_nil, .inr ⟨rfl, rfl⟩⟩
    | case2 c rest hc =>
        cases eq_of_beq hc
        exact ⟨[], List.not_mem_nil, .inl rfl⟩
    | case3 c rest hc ih =>
        have hne : '\n' ≠ c := fun h => hc (beq_iff_eq.mpr h.symm)
        obtain ⟨body, hbody, h | ⟨hnil, rfl⟩⟩ := ih
        · exact ⟨c :: body, List.not_mem_cons_of_ne_of_not_mem hne hbody,
            .inl (congrArg (c :: ·) h)⟩
        · exact ⟨_, List.not_mem_cons_of_ne_of_not_mem hne hbody, .inr ⟨hnil, rfl⟩⟩
  obtain ⟨body, hbody, h | ⟨hnil, rfl⟩⟩ := hsplit
  · generalize afterLine cs = rest at h ⊢
    subst h
    rw [upTo_append_self]
    exact .line hbody
  · rw [hnil, upTo_nil]
    exact .lastLine hbody

/-- Behind a slash and a star the text falls into a comment and the rest. -/
theorem isComment_block (cs : List Char) :
    IsComment ('/' :: '*' :: upTo (afterBlock cs) cs) (afterBlock cs) := by
  have hsplit : ∃ body, ¬ ['*', '/'] <:+: body
      ∧ (cs = body ++ ['*', '/'] ++ afterBlock cs ∨ afterBlock cs = [] ∧ cs = body) := by
    fun_induction afterBlock cs with
    | case1 => exact ⟨[], by simp, .inr ⟨rfl, rfl⟩⟩
    | case2 rest => exact ⟨[], by simp, .inl rfl⟩
    | case3 c rest hend ih =>
        have hhead {body behind : List Char} (h : rest = body ++ behind) :
            ¬ ['*', '/'] <+: c :: body := by
          rintro ⟨tail, htail⟩
          cases htail
          exact hend _ rfl h
        obtain ⟨body, hbody, h | ⟨hnil, rfl⟩⟩ := ih
        · exact ⟨c :: body, not_infix_cons (hhead (h.trans (List.append_assoc ..))) hbody,
            .inl (congrArg (c :: ·) h)⟩
        · exact ⟨_, not_infix_cons (hhead (List.append_nil _).symm) hbody, .inr ⟨hnil, rfl⟩⟩
  obtain ⟨body, hbody, h | ⟨hnil, rfl⟩⟩ := hsplit
  · generalize afterBlock cs = rest at h ⊢
    subst h
    rw [upTo_append_self]
    exact .block hbody
  · rw [hnil, upTo_nil]
    exact .unclosed hbody

/-! ## Every text has one reading -/

theorem spans_quoted {cs rest : List Char} (h : IsQuoted cs rest) :
    spans (cs ++ rest) = .quoted cs :: spans rest := by
  obtain ⟨quote, cs, rfl, hquote, hafter⟩ := h.exists_cons
  rw [List.cons_append, spans, if_pos hquote, hafter, upTo_append_self]

theorem spans_comment {cs rest : List Char} (h : IsComment cs rest) :
    spans (cs ++ rest) = .comment cs :: spans rest := by
  obtain ⟨cs, rfl, hafter⟩ | ⟨cs, rfl, hafter⟩ := h.exists_cons
  · have hline : afterLine ('-' :: (cs ++ rest)) = rest := hafter
    rw [List.cons_append, List.cons_append, spans, if_neg (by decide), if_pos (by rfl), hline,
      ← List.cons_append, upTo_append_self]
  · rw [List.cons_append, List.cons_append, spans, if_neg (by decide), if_neg (by simp),
      if_pos (by rfl), List.tail_cons, hafter, ← List.cons_append, upTo_append_self]

theorem spans_word {cs rest : List Char} (hne : cs ≠ [])
    (hword : ∀ c ∈ cs, Text.isWordChar c = true) (hend : Unworded rest) :
    spans (cs ++ rest) = .word cs :: spans rest := by
  obtain ⟨c, cs, rfl⟩ := List.exists_cons_of_ne_nil hne
  rw [List.forall_mem_cons] at hword
  obtain ⟨hc, hcs⟩ := hword
  have hquote : isQuote c = false := by
    cases h : isQuote c with
    | false => rfl
    | true => rw [isWordChar_of_isQuote h] at hc; cases hc
  have hminus : c ≠ '-' := by rintro rfl; revert hc; decide
  have hslash : c ≠ '/' := by rintro rfl; revert hc; decide
  obtain ⟨htake, hdrop⟩ := Text.takeWhile_append_run hcs hend
  rw [List.cons_append, spans, if_neg (by simp [hquote]), if_neg (by simp [hminus]),
    if_neg (by simp [hslash]), if_pos hc, htake, hdrop]

theorem spans_other {c : Char} {rest : List Char} (h : IsOther c rest) :
    spans (c :: rest) = .other c :: spans rest := by
  have hline : ¬ (c == '-' && rest.head? == some '-') = true := by
    simpa using h.line
  have hblock : ¬ (c == '/' && rest.head? == some '*') = true := by
    simpa using h.block
  rw [spans, if_neg (by simp [h.quote]), if_neg hline, if_neg hblock, if_neg (by simp [h.word])]

theorem Lexed.eq_spans {cs : List Char} {ss : List Span} (h : Lexed cs ss) : ss = spans cs := by
  induction h with
  | nil => rw [spans]
  | quoted h _ ih => rw [spans_quoted h, ← ih]
  | comment h _ ih => rw [spans_comment h, ← ih]
  | word hne hword hend _ ih => rw [spans_word hne hword hend, ← ih]
  | other h _ ih => rw [spans_other h, ← ih]

theorem lexed_spans (cs : List Char) : Lexed cs (spans cs) := by
  -- Each branch of the cut is a rule of the grammar, whose side conditions are the tests before it.
  fun_induction spans cs with
  | case1 => exact .nil
  | case2 c rest hquote _ ih =>
      have h := Lexed.quoted (isQuoted_upTo hquote rest) ih
      rwa [List.cons_append, upTo_append (afterQuoted_suffix c rest)] at h
  | case3 c rest _ hline _ ih =>
      obtain ⟨rfl, hhead⟩ : c = '-' ∧ rest.head? = some '-' := by simpa using hline
      obtain ⟨rest, rfl⟩ := List.head?_eq_some_iff.mp hhead
      have h := Lexed.comment (isComment_line rest) ih
      rwa [List.cons_append, List.cons_append, upTo_append (afterLine_suffix rest),
        ← upTo_cons (afterLine_suffix rest).length_le] at h
  | case4 c rest _ _ hblock _ _ ih =>
      obtain ⟨rfl, hhead⟩ : c = '/' ∧ rest.head? = some '*' := by simpa using hblock
      obtain ⟨rest, rfl⟩ := List.head?_eq_some_iff.mp hhead
      have h := Lexed.comment (isComment_block rest) ih
      rwa [List.cons_append, List.cons_append, upTo_append (afterBlock_suffix rest),
        ← upTo_cons (afterBlock_suffix rest).length_le] at h
  | case5 c rest _ _ _ hword _ ih =>
      have hcs : ∀ d ∈ c :: rest.takeWhile Text.isWordChar, Text.isWordChar d = true :=
        List.forall_mem_cons.mpr ⟨hword, List.all_eq_true.mp List.all_takeWhile⟩
      have hend : Unworded (rest.dropWhile Text.isWordChar) := by
        intro d hd
        have hstop := List.head?_dropWhile_not Text.isWordChar rest
        rwa [Option.mem_def.mp hd] at hstop
      have h := Lexed.word (List.cons_ne_nil _ _) hcs hend ih
      rwa [List.cons_append, List.takeWhile_append_dropWhile] at h
  | case6 c rest hquote hline hblock hword ih =>
      exact .other ⟨by simpa using hquote, by simpa using hword, by simpa using hline,
        by simpa using hblock⟩ ih

/-- Every text has exactly one reading, and cutting it into its parts finds it. -/
theorem lexed_iff {cs : List Char} {ss : List Span} : Lexed cs ss ↔ ss = spans cs :=
  ⟨Lexed.eq_spans, fun h => h ▸ lexed_spans cs⟩

/-! ## Words end where word characters end -/

theorem Lexed.behind {cs : List Char} {before ss : List Span} (h : Lexed cs (before ++ ss)) :
    Lexed (textOf ss) ss := by
  induction before generalizing cs with
  | nil => exact h.textOf_eq.symm ▸ h
  | cons s before ih =>
      cases h with
      | quoted _ hrest | comment _ hrest | word _ _ _ hrest | other _ hrest => exact ih hrest

/-- The part in front of a word is not empty and ends with no word character. -/
theorem Lexed.last_before_word {cs w : List Char} {s : Span} {behind : List Span}
    (h : Lexed cs (s :: .word w :: behind)) :
    ∃ c, s.text.getLast? = some c ∧ Text.isWordChar c = false := by
  have hnonempty {rest : List Char} (hrest : Lexed rest (.word w :: behind)) : rest ≠ [] := by
    cases hrest with
    | word hne => exact List.append_ne_nil_of_left_ne_nil hne _
  cases h with
  | quoted hquoted hrest =>
      cases hquoted with
      | closed hquote =>
          exact ⟨_, by rw [Span.text, ← List.cons_append, List.getLast?_concat],
            isWordChar_of_isQuote hquote⟩
      | unclosed | escaping => exact absurd rfl (hnonempty hrest)
  | comment hcomment hrest =>
      cases hcomment with
      | line =>
          refine ⟨'\n', ?_, by decide⟩
          rw [Span.text, ← List.cons_append, ← List.cons_append, List.getLast?_concat]
      | block =>
          refine ⟨'/', ?_, by decide⟩
          rw [Span.text, ← List.cons_append, ← List.cons_append, List.getLast?_append]
          rfl
      | lastLine | unclosed => exact absurd rfl (hnonempty hrest)
  | word _ _ hend hrest =>
      cases hrest with
      | word hne hword =>
          obtain ⟨c, w, rfl⟩ := List.exists_cons_of_ne_nil hne
          exact absurd (hword c List.mem_cons_self) (by simp [hend c rfl])
  | other h => exact ⟨_, rfl, h.word⟩

/-- A word is a run of word characters, and no word character stands beside it. -/
structure IsMaximalWord (before w behind : List Char) : Prop where
  nonempty : w ≠ []
  word : ∀ c ∈ w, Text.isWordChar c = true
  start : ∀ c ∈ before.getLast?, Text.isWordChar c = false
  stop : Unworded behind

theorem Lexed.isMaximalWord {cs w : List Char} {before behind : List Span}
    (h : Lexed cs (before ++ .word w :: behind)) :
    IsMaximalWord (textOf before) w (textOf behind) := by
  have hstart : ∀ c ∈ (textOf before).getLast?, Text.isWordChar c = false := by
    obtain rfl | ⟨before, s, rfl⟩ := List.eq_nil_or_concat before
    · exact fun c hc => by cases hc
    · rw [List.concat_eq_append, List.append_assoc] at h
      obtain ⟨c, hlast, hc⟩ := h.behind.last_before_word
      have htext : textOf (before.concat s) = textOf before ++ s.text := by simp [textOf]
      rw [htext, List.getLast?_append, hlast, Option.some_or]
      exact fun d hd => by cases hd; exact hc
  generalize hcs : textOf (.word w :: behind) = ws
  have hlexed : Lexed ws (.word w :: behind) := hcs ▸ h.behind
  cases hlexed with
  | word hne hword hend hrest => exact ⟨hne, hword, hstart, hrest.textOf_eq.symm ▸ hend⟩

/-! ## Other texts in quotes and comments -/

/-- The same parts with other texts in quotes and in comments. Such a part begins as before and is
again a region of its kind. -/
inductive Refilled : List Span → List Span → Prop
  | nil : Refilled [] []
  | quoted {cs ds : List Char} {ss ts : List Span} (hhead : ds.head? = cs.head?)
      (h : IsQuoted ds (textOf ts)) (hrest : Refilled ss ts) :
      Refilled (.quoted cs :: ss) (.quoted ds :: ts)
  | comment {cs ds : List Char} {ss ts : List Span} (hhead : ds.head? = cs.head?)
      (h : IsComment ds (textOf ts)) (hrest : Refilled ss ts) :
      Refilled (.comment cs :: ss) (.comment ds :: ts)
  | word {cs : List Char} {ss ts : List Span} (hrest : Refilled ss ts) :
      Refilled (.word cs :: ss) (.word cs :: ts)
  | other {c : Char} {ss ts : List Span} (hrest : Refilled ss ts) :
      Refilled (.other c :: ss) (.other c :: ts)

theorem head?_append_of_head? {α : Type} {as as' bs bs' : List α} (hhead : as'.head? = as.head?)
    (hne : as ≠ []) : (as' ++ bs').head? = (as ++ bs).head? := by
  obtain ⟨a, as, rfl⟩ := List.exists_cons_of_ne_nil hne
  rw [List.head?_append, List.head?_append, hhead, List.head?_cons, Option.some_or, Option.some_or]

/-- The text of the new parts is read as these parts. -/
theorem Refilled.lexed {ss ts : List Span} (h : Refilled ss ts) {cs : List Char}
    (hlexed : Lexed cs ss) : Lexed (textOf ts) ts ∧ (textOf ts).head? = cs.head? := by
  induction h generalizing cs with
  | nil => cases hlexed; exact ⟨.nil, rfl⟩
  | quoted hhead hquoted _ ih =>
      cases hlexed with
      | quoted hold hrest =>
          obtain ⟨_, _, rfl, -⟩ := hold.exists_cons
          exact ⟨.quoted hquoted (ih hrest).1, head?_append_of_head? hhead (List.cons_ne_nil _ _)⟩
  | comment hhead hcomment _ ih =>
      cases hlexed with
      | comment hold hrest =>
          refine ⟨.comment hcomment (ih hrest).1, head?_append_of_head? hhead ?_⟩
          obtain ⟨_, rfl, -⟩ | ⟨_, rfl, -⟩ := hold.exists_cons <;> exact List.cons_ne_nil _ _
  | word _ ih =>
      cases hlexed with
      | word hne hword hend hrest =>
          obtain ⟨hnew, hhead⟩ := ih hrest
          have hend : Unworded (textOf _) := fun c hc => hend c (hhead ▸ hc)
          exact ⟨.word hne hword hend hnew, head?_append_of_head? rfl hne⟩
  | other _ ih =>
      cases hlexed with
      | other hother hrest =>
          obtain ⟨hnew, hhead⟩ := ih hrest
          exact ⟨.other ⟨hother.quote, hother.word, hhead ▸ hother.line, hhead ▸ hother.block⟩ hnew,
            rfl⟩

end QueryClient.Sql
