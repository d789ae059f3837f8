import QueryClient.Sql.Statement

/-!
# The remembered text of a statement

A statement remembers the text that it has worked out. Whatever formats were set and however often
the text was asked for, it is the text that its own text and the format set last come to.
-/

namespace QueryClient.Sql.Statement

variable {s s' : Statement}

/-- Statements that come about: formats are set and the text is asked for in any order. -/
inductive Built : Statement → Prop where
  | ofText {text : String} {s : Statement} (h : ofText text = .ok s) : Built s
  | setFormat {s : Statement} (format : Option String) (hs : Built s) : Built (s.setFormat format)
  | settled {s : Statement} (hs : Built s) : Built s.settled

/-- What is remembered is what would be worked out. -/
def Coherent (s : Statement) : Prop :=
  ∀ sql, s.resolved = some sql →
    ∃ format, s.wanted = some format ∧ resolve s.text format = (sql, format)

theorem resolve_of_eq_none {text : String} (h : findFormat? (body text) = none) (format : String) :
    resolve text format = (body text ++ " FORMAT " ++ format, format) := by
  simp only [resolve, h]

/-- The format that a text is sent in is found again when the text is looked at once more. -/
theorem resolve_resolve (text format : String) :
    resolve text (resolve text format).2 = resolve text format := by
  cases h : findFormat? (body text) <;> simp only [resolve, h]

theorem coherent_setFormat (s : Statement) (format : Option String) :
    (s.setFormat format).Coherent :=
  nofun

theorem Coherent.settled (hs : s.Coherent) : s.settled.Coherent := by
  intro sql hsql
  obtain ⟨text, wanted, resolved⟩ := s
  cases wanted with
  | none => exact hs sql hsql
  | some format =>
    cases resolved with
    | some kept => exact hs sql hsql
    | none =>
      cases hsql
      exact ⟨(resolve text format).2, rfl, resolve_resolve text format⟩

theorem Built.coherent (hs : s.Built) : s.Coherent := by
  induction hs with
  | @ofText text s h =>
    unfold Statement.ofText at h
    split at h
    · cases h
    · cases h
      exact nofun
  | setFormat format hs ih => exact coherent_setFormat _ format
  | settled hs ih => exact ih.settled

/-! ## What is read of a statement -/

theorem format_of_wanted_eq_none (h : s.wanted = none) : s.format = none := by
  simp only [format, settled, render, h]

theorem toSql_of_wanted {format : String} (hs : s.Coherent) (h : s.wanted = some format) :
    s.toSql = (resolve s.text format).1 := by
  cases hresolved : s.resolved with
  | none => simp only [toSql, render, h, hresolved]
  | some sql =>
    obtain ⟨format', hformat', hresolve⟩ := hs sql hresolved
    cases h.symm.trans hformat'
    simp only [toSql, render, h, hresolved, hresolve]

theorem format_of_wanted {format : String} (hs : s.Coherent) (h : s.wanted = some format) :
    s.format = some (resolve s.text format).2 := by
  cases hresolved : s.resolved with
  | none => simp only [Statement.format, settled, render, h, hresolved]
  | some sql =>
    obtain ⟨format', hformat', hresolve⟩ := hs sql hresolved
    cases h.symm.trans hformat'
    simp only [Statement.format, settled, render, h, hresolved, hresolve]

theorem toSql_setFormat (s : Statement) (format : String) :
    (s.setFormat (some format)).toSql = (resolve s.text format).1 :=
  toSql_of_wanted (s.coherent_setFormat (some format)) rfl

theorem format_setFormat (s : Statement) (format : String) :
    (s.setFormat (some format)).format = some (resolve s.text format).2 :=
  format_of_wanted (s.coherent_setFormat (some format)) rfl

/-- Asking for the text once more changes nothing. -/
theorem render_settled (s : Statement) : s.settled.render = (s.toSql, s.settled) := by
  obtain ⟨text, wanted, resolved⟩ := s
  cases wanted with
  | none => rfl
  | some format => cases resolved <;> rfl

@[simp] theorem toSql_settled (s : Statement) : s.settled.toSql = s.toSql :=
  congrArg Prod.fst s.render_settled

@[simp] theorem format_settled (s : Statement) : s.settled.format = s.format :=
  congrArg (·.2.wanted) s.render_settled

@[simp] theorem text_settled (s : Statement) : s.settled.text = s.text := by
  obtain ⟨text, wanted, resolved⟩ := s
  cases wanted with
  | none => rfl
  | some format => cases resolved <;> rfl

/-- Two statements read alike. -/
structure Alike (s s' : Statement) : Prop where
  text : s.text = s'.text
  toSql : s.toSql = s'.toSql
  format : s.format = s'.format

theorem Alike.refl (s : Statement) : s.Alike s :=
  ⟨rfl, rfl, rfl⟩

theorem Alike.symm (h : s.Alike s') : s'.Alike s :=
  ⟨h.text.symm, h.toSql.symm, h.format.symm⟩

theorem Alike.trans {s'' : Statement} (h : s.Alike s') (h' : s'.Alike s'') : s.Alike s'' :=
  ⟨h.text.trans h'.text, h.toSql.trans h'.toSql, h.format.trans h'.format⟩

theorem alike_settled (s : Statement) : s.settled.Alike s :=
  ⟨s.text_settled, s.toSql_settled, s.format_settled⟩

/-- Another format makes no difference exactly when the statement has a format and that is the other
one, or the text names one itself. -/
theorem alike_setFormat_iff (hs : s.Coherent) (format : String) :
    (s.setFormat (some format)).Alike s
      ↔ ∃ own, s.format = some own ∧ (own = format ∨ (findFormat? (body s.text)).isSome) := by
  have hformat := s.format_setFormat format
  cases hwanted : s.wanted with
  | none =>
    have hnone := format_of_wanted_eq_none hwanted
    constructor
    · intro h
      rw [h.format, hnone] at hformat
      cases hformat
    · rintro ⟨own, hown, -⟩
      rw [hnone] at hown
      cases hown
  | some own =>
    rw [format_of_wanted hs hwanted]
    constructor
    · intro h
      refine ⟨_, rfl, ?_⟩
      rw [h.format, format_of_wanted hs hwanted, Option.some.injEq] at hformat
      cases hfound : findFormat? (body s.text) with
      | none => exact .inl (by simpa only [resolve_of_eq_none hfound] using hformat)
      | some found => exact .inr rfl
    · rintro ⟨_, ⟨⟩, h⟩
      have hresolve : resolve s.text format = resolve s.text own := by
        rcases h with rfl | h
        · exact resolve_resolve _ _
        · obtain ⟨found, hfound⟩ := Option.isSome_iff_exists.mp h
          simp only [resolve, hfound]
      refine ⟨rfl, ?_, ?_⟩
      · rw [toSql_setFormat, toSql_of_wanted hs hwanted, hresolve]
      · rw [hformat, format_of_wanted hs hwanted, hresolve]

end QueryClient.Sql.Statement
