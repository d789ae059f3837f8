import Mathlib.Data.List.Forall2
import QueryClient.Proofs.Connection.Desk
import QueryClient.Proofs.Query.Fragments

/-!
# Rows under their columns

An insert takes its columns from the first row. Every other row may give them in its own order; its
values are written in the order of the first, raw SQL where it stands and placeholders for all else,
and the values that are sent fill these placeholders one by one. Rows whose columns differ are not
written at all.
-/

namespace QueryClient

open Sql (Inert Filled)

/-! ## Columns of a row -/

/-- Two rows have the same columns, whatever their order. -/
structure SharesColumns (first row : List (Value × Value)) : Prop where
  among : ∀ k ∈ row.map (·.1), ∃ k' ∈ first.map (·.1), k'.same k = true
  covered : ∀ k ∈ first.map (·.1), ∃ k' ∈ row.map (·.1), k'.same k = true

/-- The row has a value under a column. -/
def Holds (row : List (Value × Value)) (k v : Value) : Prop :=
  ∃ k', (k', v) ∈ row ∧ k'.same k = true

theorem exists_of_mem_right {α β : Type} {R : α → β → Prop} {as : List α} {bs : List β} {b : β}
    (h : List.Forall₂ R as bs) (hb : b ∈ bs) : ∃ a ∈ as, R a b := by
  induction h with
  | nil => cases hb
  | cons head _ ih =>
      rcases List.mem_cons.mp hb with rfl | hb
      · exact ⟨_, List.mem_cons_self, head⟩
      · obtain ⟨a, ha, hab⟩ := ih hb
        exact ⟨a, List.mem_cons_of_mem _ ha, hab⟩

namespace Grammar

theorem sameKeys_iff {first row : List (Value × Value)} :
    sameKeys (row.map (·.1)) (first.map (·.1)) = true ↔ SharesColumns first row := by
  simp only [sameKeys, holdsKey, Bool.and_eq_true, List.all_eq_true, List.any_eq_true]
  exact ⟨fun h => ⟨h.1, h.2⟩, fun h => ⟨h.among, h.covered⟩⟩

theorem holds_entryOf {first row : List (Value × Value)} (h : SharesColumns first row) {k : Value}
    (hk : k ∈ first.map (·.1)) : Holds row k (entryOf row k) := by
  obtain ⟨k', hk', hsame⟩ := h.covered k hk
  obtain ⟨e, he, rfl⟩ := List.mem_map.mp hk'
  cases hfind : row.find? fun e => e.1.same k with
  | none => exact absurd hsame (List.find?_eq_none.mp hfind e he)
  | some found =>
      have hentry : entryOf row k = found.2 := by
        change ((row.find? fun e => e.1.same k).map (·.2)).getD .missing = _
        rw [hfind]
        rfl
      have hfound : found.1.same k = true :=
        List.find?_some (p := fun e : Value × Value => e.1.same k) hfind
      rw [hentry]
      exact ⟨found.1, List.mem_of_find?_eq_some hfind, hfound⟩

theorem rowValues_shared {first row : List (Value × Value)} (h : SharesColumns first row) :
    rowValues (first.map (·.1)) (.dict row) = .ok ((first.map (·.1)).map (entryOf row)) := by
  change (if sameKeys (row.map (·.1)) (first.map (·.1)) then _ else _) = _
  rw [if_pos (sameKeys_iff.mpr h)]
  rfl

theorem rowValues_uneven {first row : List (Value × Value)} (h : ¬ SharesColumns first row) :
    rowValues (first.map (·.1)) (.dict row) = .error .unevenRows := by
  change (if sameKeys (row.map (·.1)) (first.map (·.1)) then _ else _) = _
  rw [if_neg (mt sameKeys_iff.mp h)]
  rfl

/-! ## Values of all rows -/

variable {first : List (Value × Value)} {rest : List (List (Value × Value))}

theorem mapM_rowValues_shared (h : ∀ row ∈ rest, SharesColumns first row) :
    (rest.map Value.dict).mapM (rowValues (first.map (·.1)))
      = .ok (rest.map fun row => (first.map (·.1)).map (entryOf row)) := by
  induction rest with
  | nil => rfl
  | cons row rest ih =>
      rw [List.forall_mem_cons] at h
      rw [List.map_cons, List.mapM_cons, rowValues_shared h.1, ih h.2]
      rfl

theorem mapM_rowValues_uneven (h : ∃ row ∈ rest, ¬ SharesColumns first row) :
    (rest.map Value.dict).mapM (rowValues (first.map (·.1))) = .error .unevenRows := by
  induction rest with
  | nil => simp at h
  | cons row rest ih =>
      rw [List.map_cons, List.mapM_cons]
      by_cases hrow : SharesColumns first row
      · rw [rowValues_shared hrow, ih (by simpa [hrow] using h)]
        rfl
      · rw [rowValues_uneven hrow]
        rfl

theorem insertedColumns_eq : insertedColumns ((first :: rest).map .dict) = (do
    return (first.map (·.1), first.map (·.2)
      :: (← (rest.map Value.dict).mapM (rowValues (first.map (·.1)))))) := rfl

theorem insertedColumns_uneven (h : ∃ row ∈ rest, ¬ SharesColumns first row) :
    insertedColumns ((first :: rest).map .dict) = .error .unevenRows := by
  rw [insertedColumns_eq, mapM_rowValues_uneven h]
  rfl

theorem insertedColumns_shared (h : ∀ row ∈ rest, SharesColumns first row) :
    insertedColumns ((first :: rest).map .dict) = .ok (first.map (·.1),
      first.map (·.2) :: rest.map fun row => (first.map (·.1)).map (entryOf row)) := by
  rw [insertedColumns_eq, mapM_rowValues_shared h]
  rfl

/-- In every tuple the values of the row stand in the order of the columns. -/
theorem forall₂_holds (h : ∀ row ∈ rest, SharesColumns first row) :
    List.Forall₂ (fun row tuple => List.Forall₂ (Holds row) (first.map (·.1)) tuple) rest
      (rest.map fun row => (first.map (·.1)).map (entryOf row)) := by
  rw [List.forall₂_map_right_iff, List.forall₂_same]
  intro row hrow
  rw [List.forall₂_map_right_iff, List.forall₂_same]
  exact fun k hk => holds_entryOf (h row hrow) hk

/-- The tuples hold values of the rows and nothing else. -/
theorem exists_row_of_mem {keys : List Value} {tuples : List (List Value)}
    (h : List.Forall₂ (fun row tuple => List.Forall₂ (Holds row) keys tuple) rest tuples)
    {vs : List Value} (hvs : vs ∈ tuples) {v : Value} (hv : v ∈ vs) :
    ∃ row ∈ rest, v ∈ row.map (·.2) := by
  obtain ⟨row, hrow, htuple⟩ := exists_of_mem_right h hvs
  obtain ⟨k, -, k', hentry, -⟩ := exists_of_mem_right htuple hv
  exact ⟨row, hrow, List.mem_map_of_mem hentry⟩

/-! ## Filling the tuples -/

theorem parameter_filled {v : Value} (h : v.WellWritten) :
    Filled .code (parameter v).toList (boundValues [v]) (Sql.literal v).toList .code := by
  cases v with
  | raw inner =>
      rw [Sql.literal]
      exact (h rfl).filled
  | _ => exact Sql.filled_placeholder _

theorem boundValues_eq_flatMap (vs : List Value) :
    boundValues vs = vs.flatMap fun v => boundValues [v] := by
  induction vs with
  | nil => rfl
  | cons v vs ih =>
      rw [List.flatMap_cons, ← ih]
      exact List.filter_append [v] vs

/-- The places of values between parentheses. -/
def placesText (vs : List Value) : String :=
  "(" ++ parameters vs ++ ")"

/-- Literals between parentheses. -/
def tupleText (vs : List Value) : String :=
  "(" ++ Text.join ", " (vs.map Sql.literal) ++ ")"

theorem tuple_filled {vs : List Value} (h : ∀ v ∈ vs, v.WellWritten) :
    Filled .code (placesText vs).toList (boundValues vs) (tupleText vs).toList .code := by
  have hcomma : Inert ", ".toList := by decide
  have hopen : Inert "(".toList := by decide
  have hclose : Inert ")".toList := by decide
  have hparameters := Filled.join hcomma fun v hv => parameter_filled (h v hv)
  rw [← boundValues_eq_flatMap] at hparameters
  have htuple := (hopen.filled.append hparameters).append hclose.filled
  rw [List.nil_append, List.append_nil] at htuple
  simpa only [placesText, parameters, tupleText, String.toList_append] using htuple

/-! ## The statement -/

/-- The insert of written tuples under the given columns. -/
def insertOf (table : String) (columns tuples : List String) : String :=
  "insert into " ++ table ++ " (" ++ Text.join ", " columns ++ ") values " ++ Text.join ", " tuples

theorem insert_eq {g : Grammar} {q : Query} {rows keys : List Value} {tuples : List (List Value)}
    {table : String} {columns : List String} (htable : g.table q.outline.table = .ok table)
    (hinserted : insertedColumns rows = .ok (keys, tuples))
    (hcolumns : keys.mapM g.column = .ok columns) :
    g.insert q (.list rows) = .ok (insertOf table columns (tuples.map placesText)) := by
  have hrows : insertedRows (.list rows) = .ok rows := rfl
  simp only [insert, htable, hrows, hinserted, Grammar.columns, hcolumns, ok_bind]
  rfl

theorem insert_error {g : Grammar} {q : Query} {rows : List Value} {table : String} {fault : Fault}
    (htable : g.table q.outline.table = .ok table)
    (hinserted : insertedColumns rows = .error fault) :
    g.insert q (.list rows) = .error fault := by
  have hrows : insertedRows (.list rows) = .ok rows := rfl
  simp only [insert, htable, hrows, hinserted, ok_bind]
  rfl

theorem insertedValues_eq {rows keys : List Value} {tuples : List (List Value)}
    (hinserted : insertedColumns rows = .ok (keys, tuples)) :
    insertedValues (.list rows) = .ok (tuples.flatMap boundValues) := by
  have hrows : insertedRows (.list rows) = .ok rows := rfl
  simp only [insertedValues, hrows, hinserted, ok_bind]
  rfl

theorem bind_insert {table : String} {columns : List String} {tuples : List (List Value)}
    (htable : Inert table.toList) (hcolumns : ∀ column ∈ columns, Inert column.toList)
    (hvalues : ∀ vs ∈ tuples, ∀ v ∈ vs, v.WellWritten) :
    Sql.bind (insertOf table columns (tuples.map placesText))
      (.list (tuples.flatMap boundValues)) = .ok (insertOf table columns (tuples.map tupleText)) := by
  have hcomma : Inert ", ".toList := by decide
  have hfront : Inert ("insert into " ++ table ++ " (" ++ Text.join ", " columns
      ++ ") values ").toList := by
    refine Inert.append_text (Inert.append_text (Inert.append_text (Inert.append_text ?_ htable) ?_)
      (inert_join hcomma hcolumns)) ?_ <;> decide
  -- nothing is trimmed, so that the values may begin and end with anything
  have htuples := Filled.join hcomma fun vs hvs => tuple_filled (hvalues vs hvs)
  have hfilled := hfront.filled.append htuples
  rw [List.nil_append, ← String.toList_append, ← String.toList_append] at hfilled
  exact Sql.bind_of_filled hfilled

end Grammar

/-! ## Asking for the insert -/

namespace Desk

open Grammar

variable {d : Desk} {id : Nat} {rows : List Value}

theorem perform_write (hrows : rows ≠ []) : perform (write id (.list rows)) d
    = match d.workspace.grammar.insert (d.snapshotOf id) (.list rows) with
      | .error fault => (.error fault, d)
      | .ok sql => perform (do
          return some (← send (·.write · ·) sql (insertedValues (.list rows)))) d := by
  have hgiven : (Value.list rows).isTruthy = true := by
    cases rows with
    | nil => exact absurd rfl hrows
    | cons row rows => rfl
  rw [write, hgiven, Bool.not_true, if_neg Bool.false_ne_true, perform_bind, perform_view]
  change perform (do
    let sql ← d.workspace.grammar.insert (d.snapshotOf id) (.list rows)
    return some (← send (·.write · ·) sql (insertedValues (.list rows)))) d = _
  rw [perform_bind, perform_lift]
  cases d.workspace.grammar.insert (d.snapshotOf id) (.list rows) <;> rfl

/-- The text is written first; where that fails nothing is sent. -/
theorem perform_insert (hrows : rows ≠ []) : perform (ask id .insert [.value (.list rows)]) d
    = match d.workspace.grammar.insert (d.snapshotOf id) (.list rows) with
      | .error fault => (.error fault, d)
      | .ok sql => perform (do
          Terminal.insert.reply (← send (·.write · ·) sql (insertedValues (.list rows)))) d := by
  change perform (write id (.list rows) >>= _) d = _
  rw [perform_bind, perform_write hrows]
  cases d.workspace.grammar.insert (d.snapshotOf id) (.list rows) with
  | error fault => rfl
  | ok sql =>
      dsimp only
      rw [perform_bind, perform_bind]
      rcases perform (send (·.write · ·) sql (insertedValues (.list rows))) d with ⟨_ | r, d'⟩ <;>
        rfl

/-- Rows with the same columns are written with every value under its column, and nothing is written
of rows whose columns differ. -/
theorem insert_places_values (d : Desk) (id : Nat) (first : List (Value × Value))
    (rest : List (List (Value × Value))) {table : String}
    (htable : d.workspace.grammar.table (d.snapshotOf id).outline.table = .ok table) :
    let rows := Value.list ((first :: rest).map .dict)
    ((∀ row ∈ rest, SharesColumns first row) → Inert table.toList →
      (∀ k ∈ first.map (·.1), IsInert (d.workspace.grammar.column k)) →
      (∀ row ∈ first :: rest, ∀ v ∈ row.map (·.2), v.WellWritten) →
      ∃ sql values columns tuples,
        d.workspace.grammar.insert (d.snapshotOf id) rows = .ok sql
          ∧ insertedValues rows = .ok values
          ∧ perform (ask id .insert [.value rows]) d
            = perform (do Terminal.insert.reply (← send (·.write · ·) sql (.ok values))) d
          ∧ (first.map (·.1)).mapM d.workspace.grammar.column = .ok columns
          ∧ List.Forall₂ (fun row tuple => List.Forall₂ (Holds row) (first.map (·.1)) tuple)
            rest tuples
          ∧ Sql.bind sql (.list values)
            = .ok (insertOf table columns ((first.map (·.2) :: tuples).map tupleText)))
    ∧ ((∃ row ∈ rest, ¬ SharesColumns first row) →
      perform (ask id .insert [.value rows]) d = (.error .unevenRows, d)
        ∧ Fault.unevenRows.family = .query) := by
  intro rows
  have hrows : (first :: rest).map Value.dict ≠ [] := List.cons_ne_nil _ _
  constructor
  · intro hshared hinert hcolumns hvalues
    have hinserted := insertedColumns_shared hshared
    have htuples := forall₂_holds hshared
    obtain ⟨columns, hwritten, hall⟩ := areInert_mapM hcolumns
    have hsql := insert_eq htable hinserted hwritten
    have hbound := insertedValues_eq hinserted
    refine ⟨_, _, columns, _, hsql, hbound, ?_, hwritten, htuples, bind_insert hinert hall ?_⟩
    · rw [perform_insert hrows, hsql, hbound]
    · rw [List.forall_mem_cons] at hvalues ⊢
      refine ⟨hvalues.1, fun vs hvs v hv => ?_⟩
      obtain ⟨row, hrow, hmem⟩ := exists_row_of_mem htuples hvs hv
      exact hvalues.2 row hrow v hmem
  · intro huneven
    have hfault := insert_error htable (insertedColumns_uneven huneven)
    exact ⟨by rw [perform_insert hrows, hfault], rfl⟩

/-- A row in another order, with raw SQL in another place and marks in its values, is written under
the columns of the first; a row without one of them is not. -/
theorem insert_places_values_reordered :
    let d : Desk := { workspace.queries := [{ outline.table := .text "t" }] }
    let first := [(Value.text "a", Value.int 1), (.text "b?", .raw (.text "now()"))]
    let other := [(Value.text "b?", Value.text "?', "), (.text "a", .raw (.text "'?'"))]
    let short := [(Value.text "a", Value.int 2)]
    let sql := "insert into \x60t\x60 (\x60a\x60, \x60b?\x60) values (?, now()), ('?', ?)"
    d.workspace.grammar.table (d.snapshotOf 0).outline.table = .ok "\x60t\x60"
      ∧ Inert "\x60t\x60".toList
      ∧ (∀ k ∈ first.map (·.1), IsInert (d.workspace.grammar.column k))
      ∧ (∀ row ∈ [first, other], ∀ v ∈ row.map (·.2), v.WellWritten)
      ∧ (∀ row ∈ [other], SharesColumns first row)
      ∧ (∃ row ∈ [short], ¬ SharesColumns first row)
      ∧ perform (ask 0 .insert [.value (.list [.dict first, .dict other])]) d = perform (do
          Terminal.insert.reply
            (← send (·.write · ·) sql (.ok [Value.int 1, .text "?', "]))) d
      ∧ Sql.bind sql (.list [.int 1, .text "?', "])
        = .ok "insert into \x60t\x60 (\x60a\x60, \x60b?\x60) values (1, now()), ('?', '?\\', ')"
      ∧ perform (ask 0 .insert [.value (.list [.dict first, .dict short])]) d
        = (.error .unevenRows, d) := by
  intro d first other short sql
  have htable : d.workspace.grammar.table (d.snapshotOf 0).outline.table = .ok "\x60t\x60" := rfl
  have hinert : Inert "\x60t\x60".toList := by decide
  have hcolumns : ∀ k ∈ first.map (·.1), IsInert (d.workspace.grammar.column k) := by decide
  have hvalues : ∀ row ∈ [first, other], ∀ v ∈ row.map (·.2), v.WellWritten := by decide
  have hshared : ∀ row ∈ [other], SharesColumns first row := by
    have hkeys : sameKeys (other.map (·.1)) (first.map (·.1)) = true := by
      simp [sameKeys, holdsKey, other, first]
    simpa only [List.forall_mem_singleton] using sameKeys_iff.mp hkeys
  have huneven : ∃ row ∈ [short], ¬ SharesColumns first row := by
    have hkeys : sameKeys (short.map (·.1)) (first.map (·.1)) = false := by
      simp [sameKeys, holdsKey, short, first]
    exact ⟨short, List.mem_singleton_self _, fun h => by simp [sameKeys_iff.mpr h] at hkeys⟩
  obtain ⟨sql', values, columns, tuples, hsql, hbound, hperform, -⟩ :=
    (insert_places_values d 0 first [other] htable).1 hshared hinert hcolumns hvalues
  have hentries : (first.map (·.1)).map (entryOf other)
      = [.raw (.text "'?'"), .text "?', "] := by
    simp [first, other, entryOf]
  have hinserted := insertedColumns_shared hshared
  rw [List.map_singleton, hentries] at hinserted
  have hwritten : d.workspace.grammar.insert (d.snapshotOf 0) (.list ([first, other].map .dict))
      = .ok sql := (insert_eq htable hinserted rfl).trans (by simp only [sql]; rfl)
  rw [hwritten] at hsql
  rw [insertedValues_eq hinserted] at hbound
  cases hsql
  cases hbound
  exact ⟨htable, hinert, hcolumns, hvalues, hshared, huneven, hperform,
    by simp only [sql]; rfl, ((insert_places_values d 0 first [short] htable).2 huneven).1⟩

end Desk

end QueryClient
