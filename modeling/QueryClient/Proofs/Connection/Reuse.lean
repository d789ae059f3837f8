import QueryClient.Connection.Reuse
import QueryClient.Proofs.Sql.Place
import QueryClient.Proofs.Sql.Resolved

/-!
# What a select leaves of a statement

A statement that is held on to reads behind a select as it did before, unless a result file sets
another format on it; then all that is done with it later is done in the format of the file.
-/

namespace QueryClient.Connection

open Files (ExternalTable ResultFile)
open Http (Request)
open Sql (Statement findFormat?)

variable {s s' : Statement}

/-! ## Requests of held statements -/

theorem perform_readHeld (c : Connection) (tables : List ExternalTable) (file : Option ResultFile)
    (s : Statement) : perform (c.readHeld tables file) s
      = ((c.readRequest s tables file).map fun made => (made.1, made.2.1),
        (statementFor s file).settled) := by
  simp only [readHeld, perform_bind, perform_getThe, perform_set, perform_lift]
  cases c.readRequest s tables file <;> rfl

theorem perform_fillHeld (bindings : Value) (s : Statement) (h : bindings.isTruthy = true) :
    (∃ fault, perform (fillHeld bindings) s = (.error fault, s)
        ∧ bound (.statement s) bindings = .error fault)
      ∨ ∃ filled, perform (fillHeld bindings) s = (.ok filled, s.settled)
        ∧ bound (.statement s) bindings = .ok (.statement filled) := by
  simp only [fillHeld, perform_bind, perform_getThe, perform_set, perform_lift, bound, h,
    Bool.not_true, Bool.false_eq_true, if_false]
  cases Sql.bind s.text bindings with
  | error fault => exact .inl ⟨fault, rfl, rfl⟩
  | ok text =>
    simp only [ok_bind]
    cases Statement.ofText text with
    | error fault => exact .inl ⟨fault, rfl, rfl⟩
    | ok filled => exact .inr ⟨_, rfl, rfl⟩

theorem reading_of_bound {c : Connection} {sql bindings : Value}
    (h : bound sql bindings = .ok (.statement s)) (tables : List ExternalTable)
    (file : Option ResultFile) : c.reading sql bindings tables file
      = (c.readRequest s tables file).map fun made => (made.1, made.2.1) := by
  simp only [reading, readStatement, h, ok_bind, pure_bind]
  cases c.readRequest s tables file <;> rfl

/-- A held statement makes the request that it makes as a value. It is left alone when values are
put in, and in the format of the file otherwise. -/
theorem perform_prepareHeld (c : Connection) (s : Statement) (bindings : Value)
    (tables : List ExternalTable) (file : Option ResultFile) :
    (perform (c.prepareHeld bindings tables file) s).1
        = c.reading (.statement s) bindings tables file
      ∧ (perform (c.prepareHeld bindings tables file) s).2.Alike
        (if bindings.isTruthy then s else statementFor s file)
      ∧ (s.Built → (perform (c.prepareHeld bindings tables file) s).2.Built) := by
  cases hvalues : bindings.isTruthy with
  | false =>
    have hbound : bound (.statement s) bindings = .ok (.statement s) := by
      rw [bound, hvalues]
      rfl
    rw [reading_of_bound hbound, prepareHeld, hvalues]
    simp only [Bool.not_false, if_true, perform_readHeld, Bool.false_eq_true, if_false]
    refine ⟨trivial, (statementFor s file).alike_settled, fun hs => .settled ?_⟩
    cases file with
    | none => exact hs
    | some file => exact hs.setFormat _
  | true =>
    simp only [prepareHeld, hvalues, Bool.not_true, Bool.false_eq_true, if_false, if_true,
      perform_bind]
    rcases perform_fillHeld bindings s hvalues with
      ⟨fault, hperform, hbound⟩ | ⟨filled, hperform, hbound⟩
    · rw [hperform, reading, readStatement, hbound]
      exact ⟨rfl, .refl s, id⟩
    · rw [hperform, reading_of_bound hbound]
      simp only [perform_lift, perform_readHeld]
      exact ⟨trivial, s.alike_settled, .settled⟩

/-! ## Statements that read alike -/

theorem statementRequest_congr (c : Connection) (h : s.Alike s')
    (parameters : List (String × Value)) (inAddress : Bool) (excluded : List String) :
    c.statementRequest s parameters inAddress excluded
      = c.statementRequest s' parameters inAddress excluded := by
  simp only [statementRequest, h.toSql, h.format]

theorem alike_statementFor (h : s.Alike s') (file : Option ResultFile) :
    (statementFor s file).Alike (statementFor s' file) := by
  cases file with
  | none => exact h
  | some file =>
    have hfile : statementFor s (some file) = statementFor s' (some file) := by
      simp only [statementFor, Statement.setFormat, h.text]
    exact hfile ▸ .refl _

theorem readRequest_congr (c : Connection) (h : s.Alike s') (tables : List ExternalTable)
    (file : Option ResultFile) :
    (c.readRequest s tables file).map (fun made => (made.1, made.2.1))
      = (c.readRequest s' tables file).map fun made => (made.1, made.2.1) := by
  simp only [readRequest, c.statementRequest_congr (alike_statementFor h file)]
  generalize c.statementRequest (statementFor s' file) _ _ _ = made
  cases made with
  | error fault => rfl
  | ok r =>
    simp only [ok_bind]
    cases c.openSink _ file <;> rfl

theorem bound_congr (h : s.Alike s') {bindings : Value} (hvalues : bindings.isTruthy = true) :
    bound (.statement s) bindings = bound (.statement s') bindings := by
  simp only [bound, hvalues, Bool.not_true, Bool.false_eq_true, if_false, h.text, h.format]

theorem reading_congr (c : Connection) (h : s.Alike s') (bindings : Value)
    (tables : List ExternalTable) (file : Option ResultFile) :
    c.reading (.statement s) bindings tables file
      = c.reading (.statement s') bindings tables file := by
  cases hvalues : bindings.isTruthy with
  | true => simp only [reading, readStatement, bound_congr h hvalues]
  | false =>
    have hbound (s : Statement) : bound (.statement s) bindings = .ok (.statement s) := by
      rw [bound, hvalues]
      rfl
    rw [reading_of_bound (hbound s), reading_of_bound (hbound s'), readRequest_congr c h]

/-! ## Selecting with held statements -/

theorem selectHeld_eq (c : Connection) (s : Statement) (bindings : Value)
    (tables : List ExternalTable) (file : Option ResultFile) :
    c.selectHeld s bindings tables file = ((perform (c.prepareHeld bindings tables file) s).2,
      c.select (.statement s) bindings tables file) := by
  rw [select, ← (c.perform_prepareHeld s bindings tables file).1]
  rfl

theorem selectHeldLater_eq (c : Connection) (s : Statement) (bindings : Value)
    (tables : List ExternalTable) (file : Option ResultFile) :
    c.selectHeldLater s bindings tables file = ((perform (c.prepareHeld bindings tables file) s).2,
      c.selectLater (.statement s) bindings tables file) := by
  rw [selectLater, ← (c.perform_prepareHeld s bindings tables file).1, selectHeldLater]
  rcases perform (c.prepareHeld bindings tables file) s with ⟨_ | _, _⟩ <;> rfl

/-- A select spares a statement: values are put in, or there is no result file, or the statement has
a format and that is the one of the file, or the text names one. -/
def Spares (s : Statement) (bindings : Value) (file : Option ResultFile) : Prop :=
  bindings.isTruthy = true ∨ ∀ f, file = some f → ∃ own, s.format = some own
    ∧ (own = f.format ∨ (findFormat? (Statement.body s.text)).isSome = true)

theorem spares_iff (hs : s.Built) (bindings : Value) (file : Option ResultFile) :
    (if bindings.isTruthy then s else statementFor s file).Alike s ↔ Spares s bindings file := by
  unfold Spares
  cases bindings.isTruthy with
  | true => simp [Statement.Alike.refl]
  | false =>
    cases file with
    | none => simp [statementFor, Statement.Alike.refl]
    | some f => simpa [statementFor] using Statement.alike_setFormat_iff hs.coherent f.format

/-- A select leaves the statement as it reads exactly when it spares it, and then any later select
does the same. Otherwise the statement has the format of the file from then on. -/
theorem select_spares_statement_iff (hs : s.Built) (c : Connection) (bindings : Value)
    (tables : List ExternalTable) (file : Option ResultFile) :
    let s' := (c.selectHeld s bindings tables file).1
    (c.selectHeld s bindings tables file).2 = c.select (.statement s) bindings tables file
      ∧ c.selectHeldLater s bindings tables file
        = (s', c.selectLater (.statement s) bindings tables file)
      ∧ s'.Built
      ∧ ((s'.toSql = s.toSql ∧ s'.format = s.format) ↔ Spares s bindings file)
      ∧ (Spares s bindings file →
        ∀ (c : Connection) (bindings : Value) (tables : List ExternalTable)
          (file : Option ResultFile),
          c.select (.statement s') bindings tables file = c.select (.statement s) bindings tables file
            ∧ c.selectLater (.statement s') bindings tables file
              = c.selectLater (.statement s) bindings tables file)
      ∧ (¬ Spares s bindings file →
        ∃ f, file = some f ∧ s'.Alike (s.setFormat (some f.format))) := by
  intro s'
  obtain ⟨-, halike, hbuilt⟩ := c.perform_prepareHeld s bindings tables file
  have hnow := c.selectHeld_eq s bindings tables file
  have hs' : (perform (c.prepareHeld bindings tables file) s).2 = s' := (congrArg (·.1) hnow).symm
  rw [hs'] at halike hbuilt
  have hspares : s'.Alike s ↔ Spares s bindings file :=
    Iff.trans ⟨halike.symm.trans, halike.trans⟩ (spares_iff hs bindings file)
  refine ⟨congrArg (·.2) hnow, ?_, hbuilt hs, ?_, fun h c bindings tables file => ?_, fun h => ?_⟩
  · rw [selectHeldLater_eq, hs']
  · rw [← hspares]
    refine ⟨fun ⟨hsql, hformat⟩ => ⟨?_, hsql, hformat⟩, fun h => ⟨h.toSql, h.format⟩⟩
    rw [halike.text]
    cases bindings.isTruthy <;> cases file <;> rfl
  · have hreading := reading_congr c (hspares.mpr h) bindings tables file
    rw [select, select, selectLater, selectLater, hreading]
    exact ⟨rfl, rfl⟩
  · have hvalues : bindings.isTruthy = false := by
      rw [← Bool.not_eq_true]
      exact fun hvalues => h (.inl hvalues)
    cases file with
    | none => exact (h (.inr nofun)).elim
    | some f =>
      rw [hvalues] at halike
      exact ⟨f, rfl, halike⟩

/-- A format that the text names stands against the one of the file. -/
theorem select_spares_statement_iff_named :
    let s := Statement.setFormat ⟨"select 1 FORMAT CSV", none, none⟩ (some "JSON")
    let file : ResultFile := { file := "o.tsv", format := "TabSeparated" }
    let s' := (selectHeld {} s .null [] (some file)).1
    s.Built ∧ s'.toSql = s.toSql ∧ s'.format = s.format := by
  intro s file s'
  have htext : Statement.ofText "select 1 FORMAT CSV"
      = .ok ⟨"select 1 FORMAT CSV", none, none⟩ := rfl
  have hs : s.Built := .setFormat _ (.ofText htext)
  have hnamed : findFormat? (Statement.body "select 1 FORMAT CSV") = some "CSV" := by
    rw [show Statement.body "select 1 FORMAT CSV" = "select 1 FORMAT CSV" by decide,
      Sql.findFormat?_eq]
    decide
  have hspares : Spares s .null (some file) := by
    refine .inr fun _ _ => ⟨_, Statement.format_setFormat _ _, .inr ?_⟩
    exact Option.isSome_of_eq_some hnamed
  obtain ⟨-, -, -, hiff, -⟩ := select_spares_statement_iff hs {} .null [] (some file)
  exact ⟨hs, hiff.mpr hspares⟩

/-- A statement that wants another format than a result file has lost it behind the select. -/
theorem select_overwrites_format :
    let s := Statement.setFormat ⟨"select 1", none, none⟩ (some "JSON")
    let file : ResultFile := { file := "o.tsv", format := "TabSeparated" }
    let s' := (selectHeld {} s .null [] (some file)).1
    s.Built
      ∧ s.toSql = "select 1 FORMAT JSON" ∧ s.format = some "JSON"
      ∧ s'.toSql = "select 1 FORMAT TabSeparated" ∧ s'.format = some "TabSeparated" := by
  intro s file s'
  have htext : Statement.ofText "select 1" = .ok ⟨"select 1", none, none⟩ := rfl
  have hbody : Statement.body "select 1" = "select 1" := by decide
  have hnone : findFormat? (Statement.body "select 1") = none := by
    rw [hbody, Sql.findFormat?_eq]
    decide
  have hresolve (format : String) :
      Statement.resolve "select 1" format = ("select 1" ++ " FORMAT " ++ format, format) := by
    rw [Statement.resolve_of_eq_none hnone, hbody]
  have halike : s'.Alike (s.setFormat (some "TabSeparated")) :=
    (perform_prepareHeld {} s .null [] (some file)).2.1
  refine ⟨.setFormat _ (.ofText htext), ?_, ?_, ?_, ?_⟩
  · exact (Statement.toSql_setFormat _ _).trans (congrArg (·.1) (hresolve "JSON"))
  · exact (Statement.format_setFormat _ _).trans (congrArg (some ·.2) (hresolve "JSON"))
  · rw [halike.toSql, Statement.toSql_setFormat]
    exact congrArg (·.1) (hresolve "TabSeparated")
  · rw [halike.format, Statement.format_setFormat]
    exact congrArg (some ·.2) (hresolve "TabSeparated")

end QueryClient.Connection
