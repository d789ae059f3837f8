import QueryClient.Proofs.Sql.Place
import QueryClient.Sql.Statement

/-!
# The format that is reported and the format that is sent

A statement reports the format that its text names, and where the text names none, the format that
is put at its end. That clause is read as a clause exactly when the text leaves no quote and no
comment open.
-/

namespace QueryClient.Sql

/-! ## Staying in quotes and comments -/

namespace Place

/-- A region that is to end, if there is one, ends with a quote. -/
def Proper : Place → Prop
  | quoted quote | escaped quote => isQuote quote = true
  | bare | minus | slash | word _ | line | block | star => True

theorem proper_bare : bare.Proper := trivial

theorem proper_begin (c : Char) : (begin c).Proper := by
  unfold begin
  split
  · assumption
  · split
    · trivial
    · split
      · trivial
      · split <;> trivial

theorem Proper.step {p : Place} (h : p.Proper) (c : Char) : (p.step c).Proper := by
  cases p with
  | bare => exact proper_begin c
  | minus => simp only [Place.step]; split; trivial; exact proper_begin c
  | slash => simp only [Place.step]; split; trivial; exact proper_begin c
  | word reversed => simp only [Place.step]; split; trivial; exact proper_begin c
  | quoted quote =>
      simp only [Place.step]
      split
      · exact h
      · split
        · trivial
        · exact h
  | escaped quote => exact h
  | line => simp only [Place.step]; split <;> trivial
  | block => simp only [Place.step]; split <;> trivial
  | star =>
      simp only [Place.step]
      split
      · trivial
      · split <;> trivial

theorem Proper.run {p : Place} (h : p.Proper) (cs : List Char) : (p.run cs).Proper := by
  induction cs generalizing p with
  | nil => exact h
  | cons c cs ih => exact ih (h.step c)

end Place

/-- A character that can end a quoted region or a comment. -/
def isClosing (c : Char) : Bool :=
  isQuote c || c == '\n' || c == '/'

theorem Place.Proper.isEnclosed_step {p : Place} (hp : p.Proper) (h : p.isEnclosed = true)
    {c : Char} (hc : isClosing c = false) : (p.step c).isEnclosed = true := by
  simp only [isClosing, Bool.or_eq_false_iff, beq_eq_false_iff_ne] at hc
  obtain ⟨⟨hquote, hfeed⟩, hslash⟩ := hc
  cases p with
  | quoted quote =>
      have hne : c ≠ quote := by
        rintro rfl
        rw [show isQuote c = true from hp] at hquote
        cases hquote
      simp only [Place.step, hne, ↓reduceIte]
      split <;> rfl
  | escaped quote => rfl
  | line => simp [Place.step, hfeed, isEnclosed]
  | block => simp only [Place.step]; split <;> rfl
  | star => simp only [Place.step, hslash, ↓reduceIte]; split <;> rfl
  | _ => cases h

namespace Search

theorem close_of_enclosed {s : Search} (h : s.place.isEnclosed = true) : s.close = s := by
  unfold close
  split
  · rename_i hplace
    rw [hplace] at h
    cases h
  · rfl

theorem result_of_enclosed {s : Search} (hp : s.place.Proper) (h : s.place.isEnclosed = true)
    {cs : List Char} (hcs : ∀ c ∈ cs, isClosing c = false) : (s.run cs).result = s.result := by
  induction cs generalizing s with
  | nil => rfl
  | cons c cs ih =>
      rw [List.forall_mem_cons] at hcs
      have hstep := hp.isEnclosed_step h hcs.1
      have hfound : (s.step c).found = s.found := by
        rw [step_of_not_word (close_of_enclosed h)]
      rw [run_cons, ih (hp.step c) hstep hcs.2, result, result, close_of_enclosed hstep,
        close_of_enclosed h, hfound]

/-! ## A clause at the end -/

/-- Behind a space a search that is outside quotes and comments starts anew. -/
theorem step_space {s : Search} (h : s.place.isEnclosed = false) (hs : s.result = none) :
    s.step ' ' = ⟨.bare, s.close.armed, none⟩ := by
  have hplace : s.place.step ' ' = .bare := by
    cases hp : s.place with
    | bare | minus | slash | word reversed => rfl
    | quoted quote | escaped quote | line | block | star => rw [hp] at h; cases h
  have hkind : Text.isWordChar ' ' = false := by decide
  have hblank : Text.isBlank ' ' = true := by decide
  simp only [step, hkind, hblank, hplace, Bool.false_eq_true, ↓reduceIte, Bool.or_true,
    Bool.and_true]
  rw [← hs, result]

theorem run_clause (armed : Bool) {format : String} (h : format ∈ outputFormats) :
    ((⟨.bare, armed, none⟩ : Search).run ("FORMAT ".toList ++ format.toList)).result
      = some format := by
  have hword : (⟨.bare, armed, none⟩ : Search).run "FORMAT ".toList = ⟨.bare, true, none⟩ := by
    cases armed <;> decide
  have hname : ∀ format ∈ outputFormats,
      ((⟨.bare, true, none⟩ : Search).run format.toList).result = some format := by
    decide +kernel
  rw [run_append, hword, hname format h]

end Search

/-! ## Statements with a format -/

theorem isClosing_clause {format : String} (h : format ∈ outputFormats) :
    ∀ c ∈ " FORMAT ".toList ++ format.toList, isClosing c = false := by
  have hclause : ∀ c ∈ " FORMAT ".toList, isClosing c = false := by decide
  have hname : ∀ format ∈ outputFormats, ∀ c ∈ format.toList, isClosing c = false := by
    decide +kernel
  intro c hc
  rcases List.mem_append.mp hc with hc | hc
  · exact hclause c hc
  · exact hname format h c hc

/-- A clause behind a text that names no format is found unless it stands in quotes or in a
comment. -/
theorem findFormat?_append_clause {sql format : String} (hsql : findFormat? sql = none)
    (hf : format ∈ outputFormats) :
    findFormat? (sql ++ " FORMAT " ++ format)
      = if (Place.bare.run sql.toList).isEnclosed then none else some format := by
  rw [findFormat?_eq] at hsql
  rw [findFormat?_eq, String.toList_append, String.toList_append, List.append_assoc,
    Search.run_append]
  have hplace : ((Search.idle .bare).run sql.toList).place = Place.bare.run sql.toList :=
    Search.place_run _ _
  split
  · rename_i henclosed
    rw [← hplace] at henclosed
    have hproper : ((Search.idle .bare).run sql.toList).place.Proper := by
      rw [hplace]; exact Place.proper_bare.run sql.toList
    rw [Search.result_of_enclosed hproper henclosed (isClosing_clause hf), hsql]
  · rename_i hopen
    rw [← hplace, Bool.not_eq_true] at hopen
    have hclause : " FORMAT ".toList = ' ' :: "FORMAT ".toList := by decide
    rw [hclause, List.cons_append, Search.run_cons, Search.step_space hopen hsql]
    exact Search.run_clause _ hf

/-- The text that is sent carries a clause with the reported format exactly when the statement's own
text names a format, or else leaves no quote and no comment open at its end. -/
theorem reported_format_sent_iff {text format : String} {s : Statement}
    (hs : Statement.ofText text = .ok s) (hf : format ∈ outputFormats) :
    (∃ sent, findFormat? (s.setFormat (some format)).toSql = some sent
        ∧ (s.setFormat (some format)).format = some sent)
      ↔ (findFormat? (Statement.body text)).isSome = true
        ∨ (Place.bare.run (Statement.body text).toList).isEnclosed = false := by
  have htext : s.text = text := by
    simp only [Statement.ofText] at hs
    split at hs
    · cases hs
    · cases hs; rfl
  have hsql : (s.setFormat (some format)).toSql = (Statement.resolve text format).1 := by
    rw [← htext]; rfl
  have hformat : (s.setFormat (some format)).format = some (Statement.resolve text format).2 := by
    rw [← htext]; rfl
  rw [hsql, hformat]
  cases hfound : findFormat? (Statement.body text) with
  | some found => simp [Statement.resolve, hfound]
  | none =>
      simp only [Statement.resolve, hfound, findFormat?_append_clause hfound hf]
      cases (Place.bare.run (Statement.body text).toList).isEnclosed <;> simp

/-- A semicolon and a comment that is closed are in no one's way. -/
theorem reported_format_sent_iff_closed_comment :
    let text := " select 1 /* FORMAT CSV */ ; "
    let s : Statement := ⟨text, none, none⟩
    Statement.ofText text = .ok s ∧ "JSON" ∈ outputFormats
      ∧ (Place.bare.run (Statement.body text).toList).isEnclosed = false
      ∧ ∃ sent, findFormat? (s.setFormat (some "JSON")).toSql = some sent
          ∧ (s.setFormat (some "JSON")).format = some sent := by
  have hopen : (Place.bare.run (Statement.body " select 1 /* FORMAT CSV */ ; ").toList).isEnclosed
      = false := by decide
  exact ⟨rfl, by decide, hopen, (reported_format_sent_iff rfl (by decide)).mpr (.inr hopen)⟩

/-- Behind a line comment the clause is part of the comment. -/
theorem reported_format_not_sent :
    let s : Statement := ⟨"select 1 -- note", none, none⟩
    Statement.ofText "select 1 -- note" = .ok s ∧ "JSON" ∈ outputFormats
      ∧ (s.setFormat (some "JSON")).format = some "JSON"
      ∧ (s.setFormat (some "JSON")).toSql = "select 1 -- note FORMAT JSON"
      ∧ findFormat? (s.setFormat (some "JSON")).toSql = none := by
  have hbody : findFormat? "select 1 -- note" = none := by rw [findFormat?_eq]; decide
  have hresolved : Statement.resolve "select 1 -- note" "JSON"
      = ("select 1 -- note FORMAT JSON", "JSON") := by
    simp only [Statement.resolve, show Statement.body "select 1 -- note" = "select 1 -- note" by
      decide, hbody]
    decide
  have hsent : findFormat? "select 1 -- note FORMAT JSON" = none := by rw [findFormat?_eq]; decide
  refine ⟨rfl, by decide, ?_, ?_, ?_⟩
  · exact congrArg (some ·.2) hresolved
  · exact congrArg (·.1) hresolved
  · rw [← hsent]
    exact congrArg (findFormat? ·.1) hresolved

end QueryClient.Sql
