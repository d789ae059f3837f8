import QueryClient.Proofs.Sql.Filling

/-!
# Bound data cannot change a statement

Text, bytes, dates, times and identifiers are bound as string literals. Whatever they hold, a reader
sees the same statement around them: two results of one template differ only inside quotes, the
template's own text is kept, and no placeholder is left.
-/

namespace QueryClient

/-- Data that is written between quotes. -/
def Value.isQuoted : Value → Bool
  | .text _ | .bytes _ | .date _ | .datetime _ | .time _ | .uuid _ => true
  | _ => false

namespace Sql

theorem literal_of_isQuoted {v : Value} (h : v.isQuoted = true) :
    ∃ s, literal v = quoteText s := by
  cases v with
  | text s => exact ⟨s, by rw [literal]⟩
  | bytes data => exact ⟨_, by rw [literal]⟩
  | date d => exact ⟨_, by rw [literal]⟩
  | datetime d => exact ⟨_, by rw [literal]⟩
  | time t => exact ⟨_, by rw [literal]⟩
  | uuid s => exact ⟨s, by rw [literal]⟩
  | _ => simp [Value.isQuoted] at h

theorem inert_literal_of_isQuoted {v : Value} (h : v.isQuoted = true) :
    Inert (literal v).toList := by
  obtain ⟨s, hs⟩ := literal_of_isQuoted h
  rw [hs]
  exact inert_quoteText s

/-! ## What is left outside quotes -/

/-- A text without the contents of its quoted regions. What a reader finds outside quotes stays,
and so do the quotes themselves. -/
def blanked (r : Region) : List Char → List Char
  | [] => []
  | c :: cs =>
    if r = .code ∨ r.step c = .code then c :: blanked (r.step c) cs else blanked (r.step c) cs

theorem blanked_append (r : Region) (cs ds : List Char) :
    blanked r (cs ++ ds) = blanked r cs ++ blanked (r.run cs) ds := by
  induction cs generalizing r with
  | nil => rfl
  | cons c cs ih => simp only [List.cons_append, blanked, Region.run_cons, ih]; split <;> rfl

theorem blanked_escapeChar (c : Char) : blanked (.quoted '\'') (escapeChar c) = [] := by
  unfold escapeChar
  split
  · simp [blanked, Region.step]
  · rename_i h
    have hslash : c ≠ '\\' := by rintro rfl; simp [escapeLetter?] at h
    have hquote : c ≠ '\'' := by rintro rfl; simp [escapeLetter?] at h
    simp [blanked, Region.step, hslash, hquote]

theorem blanked_escaped (cs : List Char) : blanked (.quoted '\'') (cs.flatMap escapeChar) = [] := by
  induction cs with
  | nil => rfl
  | cons c cs ih =>
      rw [List.flatMap_cons, blanked_append, blanked_escapeChar, run_escapeChar, ih, List.nil_append]

theorem blanked_quoteChars (cs : List Char) : blanked .code (quoteChars cs) = ['\'', '\''] := by
  have hopen : Region.code.step '\'' = .quoted '\'' := by decide
  simp only [quoteChars, List.cons_append, blanked, hopen, blanked_append, blanked_escaped,
    run_escaped]
  decide

theorem blanked_literal {v : Value} (h : v.isQuoted = true) :
    blanked .code (literal v).toList = ['\'', '\''] := by
  obtain ⟨s, hs⟩ := literal_of_isQuoted h
  rw [hs, quoteText, String.toList_ofList]
  exact blanked_quoteChars s.toList

/-! ## Fillings with quoted data -/

namespace Filled

variable {r r' r'' : Region} {cs out out' : List Char} {vs ws : List Value}

/-- Behind a literal of quoted data the reader stands where the placeholder left it. -/
theorem blanked_eq (h : Filled r cs vs out r') (hv : ∀ v ∈ vs, v.isQuoted = true)
    (h' : Filled r cs ws out' r'') (hw : ∀ w ∈ ws, w.isQuoted = true) :
    blanked r out = blanked r out' := by
  induction h generalizing ws out' with
  | nil => cases h'; rfl
  | place hc _ ih =>
      obtain ⟨rfl, rfl⟩ := Region.eq_of_isPlaceholder hc
      cases h' with
      | copy hc' _ => exact absurd hc (by simp [hc'])
      | place _ rest' =>
          simp only [List.forall_mem_cons] at hv hw
          rw [blanked_append, blanked_append, blanked_literal hv.1, blanked_literal hw.1,
            (inert_literal_of_isQuoted hv.1).run, (inert_literal_of_isQuoted hw.1).run]
          exact congrArg (['\'', '\''] ++ ·) (ih hv.2 rest' hw.2)
  | copy hc _ ih =>
      cases h' with
      | place hc' _ => exact absurd hc' (by simp [hc])
      | copy _ rest' => rw [blanked, blanked, ih hv rest' hw]

theorem count_out (h : Filled r cs vs out r') (hv : ∀ v ∈ vs, v.isQuoted = true) :
    placeholderCount r out = 0 := by
  induction h with
  | nil => rfl
  | place hc _ ih =>
      obtain ⟨rfl, rfl⟩ := Region.eq_of_isPlaceholder hc
      simp only [List.forall_mem_cons] at hv
      have hlit := inert_literal_of_isQuoted hv.1
      rw [placeholderCount_append, hlit.count, hlit.run]
      exact (Nat.zero_add _).trans (ih hv.2)
  | copy hc _ ih => rw [placeholderCount, ih hv]; simp [hc]

end Filled

/-! ## Results by positions -/

/-- The text from a position on, with the literals of values in the place of the characters at the
given positions. -/
def spliced (cs : List Char) (start : Nat) : List Nat → List Value → List Char
  | position :: positions, v :: vs =>
    (cs.take position).drop start ++ (literal v).toList ++ spliced cs (position + 1) positions vs
  | _, _ => cs.drop start

theorem length_placeholderPositions (r : Region) (start : Nat) (cs : List Char) :
    (placeholderPositions r start cs).length = placeholderCount r cs := by
  induction cs generalizing r start with
  | nil => rfl
  | cons c cs ih =>
      simp only [placeholderPositions, placeholderCount]
      split
      · rw [List.length_cons, ih]; omega
      · rw [ih]; omega

/-- The induction is on the part that is still to be read; `start` is behind the last placeholder,
at most where that part begins. -/
theorem Filled.spliced_eq {r r' : Region} {cs out : List Char} {vs : List Value}
    (h : Filled r cs vs out r') (done : List Char) {start : Nat} (hs : start ≤ done.length) :
    spliced (done ++ cs) start (placeholderPositions r done.length cs) vs
      = done.drop start ++ out := by
  induction h generalizing done start with
  | nil => simp [placeholderPositions, spliced]
  | @place _ _ c cs v _ out hc _ ih =>
      have hstart : done.length + 1 ≤ (done ++ [c]).length := by simp
      have hnext := ih (done ++ [c]) hstart
      simp only [List.length_append, List.length_singleton, List.append_assoc,
        List.singleton_append] at hnext
      simp [placeholderPositions, hc, spliced, hnext]
  | @copy _ _ c cs _ out hc _ ih =>
      have hstart : start ≤ (done ++ [c]).length := by simp; omega
      have hnext := ih (done ++ [c]) hstart
      simp only [List.length_append, List.length_singleton, List.append_assoc,
        List.singleton_append] at hnext
      simp [placeholderPositions, hc, hnext, List.drop_append_of_le_length hs]

/-- A result is the text of its template with the literal of each value in the place of one
placeholder, in order, and holds no placeholder itself. -/
structure Completes (sql : String) (vs : List Value) (out : String) : Prop where
  places : (placeholderPositions .code 0 sql.toList).length = vs.length
  text : out.toList = spliced sql.toList 0 (placeholderPositions .code 0 sql.toList) vs
  count : placeholderCount .code out.toList = 0

theorem Filled.completes {sql out : String} {vs : List Value} {r : Region}
    (h : Filled .code sql.toList vs out.toList r) (hv : ∀ v ∈ vs, v.isQuoted = true) :
    Completes sql vs out where
  places := by rw [length_placeholderPositions, h.count_eq]
  text := (h.spliced_eq [] (Nat.le_refl 0)).symm
  count := h.count_out hv

/-- Binding different data to one template changes nothing outside the quotes of the data. -/
theorem bind_quoted_data {sql out out' : String} {vs ws : List Value} (hvs : vs ≠ [])
    (hws : ws ≠ []) (hv : ∀ v ∈ vs, v.isQuoted = true) (hw : ∀ w ∈ ws, w.isQuoted = true)
    (h : bind sql (.list vs) = .ok out) (h' : bind sql (.list ws) = .ok out') :
    blanked .code out.toList = blanked .code out'.toList
      ∧ Completes sql vs out ∧ Completes sql ws out' := by
  have hf := filled_of_bind hvs h
  have hf' := filled_of_bind hws h'
  exact ⟨hf.blanked_eq hv hf' hw, hf.completes hv, hf'.completes hw⟩

/-- Quotes, backslashes and question marks in the data, and a question mark in a quoted name. -/
theorem bind_quoted_data_hostile :
    let sql := "select `a?` from t where b = ? and c = ?"
    let out := "select `a?` from t where b = 'it\\'s ?\\\\' and c = '\\' or ? = \\''"
    let out' := "select `a?` from t where b = '2024-01-02' and c = '?'"
    bind sql (.list [.text "it's ?\\", .text "' or ? = '"]) = .ok out
      ∧ bind sql (.list [.date ⟨2024, 1, 2⟩, .bytes [63]]) = .ok out'
      ∧ blanked .code out.toList = blanked .code out'.toList
      ∧ Completes sql [.text "it's ?\\", .text "' or ? = '"] out
      ∧ Completes sql [.date ⟨2024, 1, 2⟩, .bytes [63]] out' :=
  ⟨rfl, rfl, bind_quoted_data (List.cons_ne_nil _ _) (List.cons_ne_nil _ _) (by simp [Value.isQuoted])
    (by simp [Value.isQuoted]) rfl rfl⟩

end Sql

end QueryClient
