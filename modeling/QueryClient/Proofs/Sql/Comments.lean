import QueryClient.Proofs.Sql.BoundData
import QueryClient.Proofs.Sql.Place
import QueryClient.Proofs.Sql.Spans

/-!
# Placeholders and comments

The reader that looks for placeholders knows quotes, but no comments. It reads a comment like code,
so that a question mark in a comment is a placeholder to it and an apostrophe opens a literal. Where
the comments leave it where they found it, it sees the placeholders of the code and those that it
takes from the comments.
-/

namespace QueryClient

namespace Sql

/-! ## Placeholders of texts in a row -/

theorem placeholderPositions_append (r : Region) (start : Nat) (cs ds : List Char) :
    placeholderPositions r start (cs ++ ds)
      = placeholderPositions r start cs
        ++ placeholderPositions (r.run cs) (start + cs.length) ds := by
  induction cs generalizing r start with
  | nil => rfl
  | cons c cs ih =>
      simp only [List.cons_append, placeholderPositions, ih, Region.run_cons, List.length_cons,
        Nat.add_assoc, Nat.add_comm 1]
      split
      · rfl
      · rfl

theorem placeholderPositions_eq_nil_iff {r : Region} {start : Nat} {cs : List Char} :
    placeholderPositions r start cs = [] ↔ placeholderCount r cs = 0 := by
  rw [← length_placeholderPositions r start, List.length_eq_zero_iff]

theorem placeholderCount_of_not_mem {r : Region} {cs : List Char} (h : '?' ∉ cs) :
    placeholderCount r cs = 0 := by
  induction cs generalizing r with
  | nil => rfl
  | cons c cs ih =>
      rw [List.mem_cons, not_or] at h
      have hc : r.isPlaceholder c = false := by
        simp [Region.isPlaceholder, Ne.symm h.1]
      simp only [placeholderCount, hc, Bool.false_eq_true, if_false, ih h.2]

theorem lt_of_mem_placeholderPositions {r : Region} {start i : Nat} {cs : List Char}
    (h : i ∈ placeholderPositions r start cs) : i < start + cs.length := by
  induction cs generalizing r start with
  | nil => cases h
  | cons c cs ih =>
      simp only [placeholderPositions] at h
      rw [List.length_cons]
      split at h
      · rcases List.mem_cons.mp h with rfl | h
        · omega
        · have := ih h; omega
      · have := ih h; omega

/-! ## Quotes and words -/

theorem isPlain_of_isWordChar {c : Char} (h : Text.isWordChar c = true) : isPlain c = true := by
  have hquote : isQuote c = false := by
    cases hq : isQuote c with
    | false => rfl
    | true => rw [isWordChar_of_isQuote hq] at h; cases h
  have hmark : c ≠ '?' := by rintro rfl; revert h; decide
  simp [isPlain, hquote, hmark]

/-- Up to its end a quoted region holds no placeholder, and the end leads back to the code. -/
theorem run_upTo_afterQuoted (quote : Char) (cs : List Char) :
    placeholderCount (.quoted quote) (upTo (afterQuoted quote cs) cs) = 0
      ∧ ((Region.quoted quote).run (upTo (afterQuoted quote cs) cs) = .code
        ∨ afterQuoted quote cs = []) := by
  have hcount (r : Region) (hr : r ≠ .code) (c : Char) (cs : List Char) :
      placeholderCount r (c :: cs) = placeholderCount (r.step c) cs := by
    simp [placeholderCount, Region.isPlaceholder, hr]
  fun_induction afterQuoted quote cs with
  | case1 => exact ⟨rfl, .inr rfl⟩
  | case2 =>
      refine ⟨?_, .inr rfl⟩
      rw [upTo_cons (Nat.zero_le _), hcount _ (by simp), upTo_self]
      rfl
  | case3 c rest ih =>
      have hle := (afterQuoted_suffix quote rest).length_le
      have hescape : ((Region.quoted quote).step '\\').step c = .quoted quote := by
        simp [Region.step]
      rw [upTo_cons (Nat.le_succ_of_le hle), upTo_cons hle, hcount _ (by simp),
        hcount _ (by simp [Region.step]), Region.run_cons, Region.run_cons, hescape]
      exact ih
  | case4 c rest hlone hpair hc =>
      have hne : c ≠ '\\' := Search.not_backslash hlone hpair
      have hend : (Region.quoted quote).step c = .code := by
        rw [Region.step, if_neg hne, if_pos (eq_of_beq hc)]
      rw [upTo_cons (Nat.le_refl _), upTo_self, hcount _ (by simp), Region.run_cons, hend]
      exact ⟨rfl, .inl rfl⟩
  | case5 c rest hlone hpair hc ih =>
      have hne : c ≠ '\\' := Search.not_backslash hlone hpair
      have hstay : (Region.quoted quote).step c = .quoted quote := by
        rw [Region.step, if_neg hne, if_neg fun h => hc (beq_iff_eq.mpr h)]
      rw [upTo_cons (afterQuoted_suffix quote rest).length_le, hcount _ (by simp), Region.run_cons,
        hstay]
      exact ih

/-! ## Parts as the reader of placeholders meets them -/

/-- Coming to each part in the code, the reader leaves it in the code and sees no placeholder in it,
comments and single characters aside. -/
def Readable : List Span → Prop
  | [] => True
  | .quoted cs :: rest =>
    placeholderCount .code cs = 0 ∧ (Region.code.run cs = .code ∨ rest = []) ∧ Readable rest
  | .word cs :: rest => Inert cs ∧ Readable rest
  | .other c :: rest => isQuote c = false ∧ Readable rest
  | .comment _ :: rest => Readable rest

theorem readable_spans (cs : List Char) : Readable (spans cs) := by
  fun_induction spans cs with
  | case1 => trivial
  | case2 c rest hquote _ ih =>
      have hopen : Region.code.step c = .quoted c := by rw [Region.step, if_pos hquote]
      have hmark : Region.code.isPlaceholder c = false := by
        have hne : c ≠ '?' := by rintro rfl; cases hquote
        simp [Region.isPlaceholder, hne]
      obtain ⟨hcount, hrun⟩ := run_upTo_afterQuoted c rest
      refine ⟨?_, ?_, ih⟩
      · simp only [placeholderCount, hmark, hopen, hcount, Bool.false_eq_true, if_false]
      · rw [Region.run_cons, hopen]
        rcases hrun with h | h
        · exact .inl h
        · rw [h, spans]
          exact .inr rfl
  | case3 c rest _ _ _ ih => exact ih
  | case4 c rest _ _ _ _ _ ih => exact ih
  | case5 c rest _ _ _ hword _ ih =>
      refine ⟨.ofPlain fun d hd => isPlain_of_isWordChar ?_, ih⟩
      rcases List.mem_cons.mp hd with rfl | hd
      · exact hword
      · exact List.all_eq_true.mp List.all_takeWhile d hd
  | case6 c rest hquote _ _ _ ih => exact ⟨Bool.eq_false_iff.mpr hquote, ih⟩

/-- The positions of the question marks among the single characters of the parts, the first of which
begins at the given position. -/
def codePositions (start : Nat) : List Span → List Nat
  | [] => []
  | .other c :: rest =>
    if c = '?' then start :: codePositions (start + 1) rest else codePositions (start + 1) rest
  | .quoted cs :: rest | .comment cs :: rest | .word cs :: rest =>
    codePositions (start + cs.length) rest

theorem le_of_mem_codePositions {start i : Nat} {ss : List Span}
    (h : i ∈ codePositions start ss) : start ≤ i := by
  induction ss generalizing start with
  | nil => cases h
  | cons s ss ih =>
      cases s with
      | other c =>
          simp only [codePositions] at h
          split at h
          · rcases List.mem_cons.mp h with rfl | h
            · exact Nat.le_refl _
            · exact Nat.le_of_succ_le (ih h)
          · exact Nat.le_of_succ_le (ih h)
      | quoted cs | comment cs | word cs => exact Nat.le_trans (Nat.le_add_right _ _) (ih h)

theorem codePositions_of_not_mem {start : Nat} {ss : List Span} (h : '?' ∉ textOf ss) :
    codePositions start ss = [] := by
  induction ss generalizing start with
  | nil => rfl
  | cons s ss ih =>
      rw [textOf_cons, List.mem_append, not_or] at h
      cases s with
      | other c =>
          rw [codePositions, if_neg fun hc => h.1 (by simp [Span.text, hc])]
          exact ih h.2
      | quoted cs | comment cs | word cs => exact ih h.2

/-- The comment leaves the reader of placeholders in the code, or no question mark comes behind
it. -/
def Harmless (comment : List Char) (behind : List Span) : Prop :=
  '?' ∈ textOf behind → Region.code.run comment = .code

theorem forall_comment_cons {p : List Char → Prop} {s : Span} {ss : List Span}
    (hs : ∀ cs, s ≠ .comment cs) :
    (∀ cs, .comment cs ∈ s :: ss → p cs) ↔ ∀ cs, .comment cs ∈ ss → p cs := by
  refine forall_congr' fun cs => ?_
  rw [List.mem_cons, or_iff_right (hs cs).symm]

/-- The placeholders are the question marks of the code and those that are read in comments. -/
theorem positions_textOf_eq_iff {start : Nat} {ss : List Span} (hread : Readable ss)
    (hclosed : ∀ before cs behind, ss = before ++ .comment cs :: behind → Harmless cs behind) :
    placeholderPositions .code start (textOf ss) = codePositions start ss
      ↔ ∀ cs, .comment cs ∈ ss → placeholderCount .code cs = 0 := by
  induction ss generalizing start with
  | nil => simp [textOf, placeholderPositions, codePositions]
  | cons s ss ih =>
      have hrest : ∀ before cs behind, ss = before ++ .comment cs :: behind → Harmless cs behind :=
        fun before cs behind h => hclosed (s :: before) cs behind (congrArg (s :: ·) h)
      rw [textOf_cons, placeholderPositions_append]
      cases s with
      | quoted cs =>
          obtain ⟨hcount, hrun, hread⟩ := hread
          rw [forall_comment_cons (s := .quoted cs) (fun _ => Span.noConfusion), Span.text,
            placeholderPositions_eq_nil_iff.mpr hcount, List.nil_append]
          rcases hrun with hrun | rfl
          · rw [hrun]
            exact ih hread hrest
          · simp [textOf, placeholderPositions, codePositions]
      | word cs =>
          rw [forall_comment_cons (s := .word cs) (fun _ => Span.noConfusion), Span.text,
            placeholderPositions_eq_nil_iff.mpr hread.1.count, hread.1.run]
          exact ih hread.2 hrest
      | other c =>
          have hrun : Region.code.run [c] = .code := by simp [Region.step, hread.1]
          rw [forall_comment_cons (s := .other c) (fun _ => Span.noConfusion), Span.text, hrun,
            ← @ih (start + 1) hread.2 hrest]
          by_cases hc : c = '?'
          · subst hc
            exact List.cons_inj_right start
          · have hnil : placeholderPositions .code start [c] = [] :=
              placeholderPositions_eq_nil_iff.mpr
                (placeholderCount_of_not_mem (by simpa using Ne.symm hc))
            rw [hnil, codePositions, if_neg hc]
            exact .rfl
      | comment cs =>
          have hall : (∀ ds, .comment ds ∈ Span.comment cs :: ss → placeholderCount .code ds = 0)
              ↔ placeholderCount .code cs = 0
                ∧ ∀ ds, .comment ds ∈ ss → placeholderCount .code ds = 0 := by
            simp [or_imp, forall_and]
          rw [hall, Span.text, codePositions, ← @placeholderPositions_eq_nil_iff .code start]
          by_cases hmark : '?' ∈ textOf ss
          · rw [hclosed [] cs ss rfl hmark, ← @ih (start + cs.length) hread hrest]
            constructor
            · -- What is read in the comment lies in front of all that comes behind.
              intro heq
              have hnil : placeholderPositions .code start cs = [] := by
                refine List.eq_nil_iff_forall_not_mem.mpr fun i hi => ?_
                have hlt := lt_of_mem_placeholderPositions hi
                have hle := le_of_mem_codePositions (heq ▸ List.mem_append_left _ hi)
                omega
              rw [hnil, List.nil_append] at heq
              exact ⟨hnil, heq⟩
            · rintro ⟨hnil, heq⟩
              rw [hnil, List.nil_append]
              exact heq
          · have hquiet : ∀ ds, .comment ds ∈ ss → placeholderCount .code ds = 0 := by
              intro ds hds
              refine placeholderCount_of_not_mem fun hd => hmark ?_
              exact List.mem_flatMap.mpr ⟨_, hds, hd⟩
            have hbehind : placeholderPositions (Region.code.run cs) (start + cs.length) (textOf ss)
                = [] :=
              placeholderPositions_eq_nil_iff.mpr (placeholderCount_of_not_mem hmark)
            rw [codePositions_of_not_mem hmark, hbehind, List.append_nil]
            exact (and_iff_left hquiet).symm

/-! ## Statements -/

/-- When the comments leave the reader of placeholders in the code, as far as question marks come
behind them, its placeholders are the question marks outside literals, quoted identifiers and
comments exactly if it sees none in a comment. Values then go into these places and no others. -/
theorem placeholders_eq_code_iff {sql : String}
    (hclosed : ∀ before cs behind, spans sql.toList = before ++ .comment cs :: behind →
      Harmless cs behind) :
    (placeholderPositions .code 0 sql.toList = codePositions 0 (spans sql.toList)
      ↔ ∀ cs, .comment cs ∈ spans sql.toList → placeholderCount .code cs = 0)
    ∧ ((∀ cs, .comment cs ∈ spans sql.toList → placeholderCount .code cs = 0) →
      ∀ vs out, vs ≠ [] → bind sql (.list vs) = .ok out →
        out.toList = spliced sql.toList 0 (codePositions 0 (spans sql.toList)) vs) := by
  have hiff := @positions_textOf_eq_iff 0 _ (readable_spans sql.toList) hclosed
  rw [textOf_spans] at hiff
  refine ⟨hiff, fun hnone vs out hvs hout => ?_⟩
  rw [← hiff.mpr hnone]
  exact ((filled_of_bind hvs hout).spliced_eq [] (Nat.le_refl 0)).symm

/-- A question mark in a literal inside a comment, and one in a literal of its own. -/
theorem placeholders_eq_code_comment :
    let sql := "a/* '?' */='?' or a=?"
    placeholderPositions .code 0 sql.toList = codePositions 0 (spans sql.toList)
      ∧ codePositions 0 (spans sql.toList) = [20] := by
  intro sql
  have hspans : spans sql.toList = [.word ['a'], .comment "/* '?' */".toList, .other '=',
      .quoted "'?'".toList, .other ' ', .word "or".toList, .other ' ', .word ['a'], .other '=',
      .other '?'] := by decide +kernel
  have hcomment (cs : List Char) (h : .comment cs ∈ spans sql.toList) :
      cs = "/* '?' */".toList := by
    rw [hspans] at h
    simpa using h
  refine ⟨(placeholders_eq_code_iff fun before cs behind h _ => ?_).1.mpr fun cs h => ?_, ?_⟩
  · rw [hcomment cs (h ▸ by simp)]
    decide
  · rw [hcomment cs h]
    decide
  · rw [hspans]
    decide

/-- An apostrophe in a comment hides the placeholder behind it, and no value can go there. -/
theorem placeholders_ne_code :
    let sql := "select 1 -- don't\nwhere a = ?"
    placeholderPositions .code 0 sql.toList = [] ∧ codePositions 0 (spans sql.toList) = [28]
      ∧ bind sql (.list [.int 1]) = .error (.bindingCount 0 1) := by
  intro sql
  have hspans : codePositions 0 (spans sql.toList) = [28] := by decide +kernel
  have hcount : placeholderCount .code sql.toList = 0 := by decide
  refine ⟨placeholderPositions_eq_nil_iff.mpr hcount, hspans, ?_⟩
  rw [bind_cons, bindPositional, length_pieces, hcount]
  rfl

end Sql

end QueryClient
