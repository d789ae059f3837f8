import QueryClient.Proofs.Connection.Expansion

/-!
# Terminals leave the queries alone

A terminal changes copies only. Whatever it is asked with, whatever the connection answers and
wherever it fails, every query that was there reads as before, by itself and through the queries that
refer to it.
-/

namespace QueryClient.Desk

variable {α β : Type} {n id : Nat}

/-! ## Performing work -/

/-- The queries, with the one of a number as the current one. -/
def viewed (d : Desk) (id : Nat) : Workspace :=
  { d.workspace with current := id }

/-- The query of a number, with those it uses put in. -/
def snapshotOf (d : Desk) (id : Nat) : Query :=
  (d.viewed id).snapshot (d.viewed id).query

@[simp] theorem perform_view (id : Nat) (d : Desk) :
    perform (view id) d = (.ok (d.viewed id), d) := rfl

/-- The desk with one more query. -/
def withQuery (d : Desk) (q : Query) : Desk :=
  { d with workspace.queries := d.workspace.queries ++ [q] }

@[simp] theorem perform_copy (id : Nat) (d : Desk) : perform (copy id) d
    = (.ok d.workspace.queries.length, d.withQuery (d.viewed id).expansion) := rfl

@[simp] theorem perform_change (id : Nat) (f : Outline → Outline) (d : Desk) :
    perform (change id f) d = (.ok (), { d with
      workspace.queries := d.workspace.queries.modify id (·.updateOutline f) }) := rfl

/-- What comes of a text and its values that are to be sent, and the connection then. -/
def deliver (exchange : Connection → Value → Value → Connection × Except Fault Http.Request)
    (sql : String) (values : Except Fault (List Value)) :
    Option Connection → Except Fault Http.Request × Option Connection
  | none => (.error .noConnection, none)
  | some c =>
    match values with
    | .error fault => (.error fault, some c)
    | .ok values =>
      let (c, outcome) := exchange c (.text sql) (.list values)
      (outcome, some c)

/-- Sending touches nothing but the connection. -/
theorem perform_send (exchange : Connection → Value → Value → Connection × Except Fault Http.Request)
    (sql : String) (values : Except Fault (List Value)) (d : Desk) :
    perform (send exchange sql values) d = ((deliver exchange sql values d.connection).1,
      { d with connection := (deliver exchange sql values d.connection).2 }) := by
  obtain ⟨w, connection⟩ := d
  cases connection with
  | none => rfl
  | some c => cases values <;> rfl

/-! ## What work keeps -/

/-- The first queries are as they were, and so is everything that names them. -/
structure Kept (n : Nat) (d d' : Desk) : Prop where
  grammar : d'.workspace.grammar = d.workspace.grammar
  names : d'.workspace.names = d.workspace.names
  current : d'.workspace.current = d.workspace.current
  length : d.workspace.queries.length ≤ d'.workspace.queries.length
  queries : ∀ id < n, d'.workspace.queries[id]? = d.workspace.queries[id]?
  sound : d.workspace.Sound → d'.workspace.Sound

namespace Kept

variable {d d' d'' : Desk}

theorem refl (n : Nat) (d : Desk) : Kept n d d :=
  ⟨rfl, rfl, rfl, Nat.le_refl _, fun _ _ => rfl, id⟩

theorem trans (h : Kept n d d') (h' : Kept n d' d'') : Kept n d d'' where
  grammar := h'.grammar.trans h.grammar
  names := h'.names.trans h.names
  current := h'.current.trans h.current
  length := h.length.trans h'.length
  queries id hid := (h'.queries id hid).trans (h.queries id hid)
  sound hd := h'.sound (h.sound hd)

theorem withConnection (n : Nat) (d : Desk) (connection : Option Connection) :
    Kept n d { d with connection } :=
  ⟨rfl, rfl, rfl, Nat.le_refl _, fun _ _ => rfl, id⟩

theorem withQuery (h : n ≤ d.workspace.queries.length) (id : Nat) :
    Kept n d (d.withQuery (d.viewed id).expansion) where
  grammar := rfl
  names := rfl
  current := rfl
  length := by simp [Desk.withQuery]
  queries id hid := List.getElem?_append_left (Nat.lt_of_lt_of_le hid h)
  sound hd := by
    -- The copy refers to nothing but itself.
    have hcopy := Workspace.within_expansion (d.viewed id)
    have hadd := hd.add "" (List.cons_ne_nil _ _) (List.forall_mem_singleton.mpr
      (hcopy.mono (fun _ hid => hid ▸ Nat.lt_succ_self _) _))
    exact ⟨hadd.within, fun e he => hadd.names e (List.mem_cons_of_mem _ he), hadd.current⟩

theorem withChange (f : Outline → Outline) (hid : n ≤ id) : Kept n d { d with
    workspace.queries := d.workspace.queries.modify id (·.updateOutline f) } where
  grammar := rfl
  names := rfl
  current := rfl
  length := by simp
  queries id' hid' := List.getElem?_modify_ne _ _ (by omega)
  sound hd := by
    have hlength : (d.workspace.queries.modify id (·.updateOutline f)).length
        = d.workspace.queries.length := by simp
    refine ⟨fun q hq => ?_, fun e he => hlength ▸ hd.names e he, hlength ▸ hd.current⟩
    obtain ⟨i, hi⟩ := List.mem_iff_getElem?.mp hq
    rw [List.getElem?_modify, Option.map_eq_map, Option.map_eq_some_iff] at hi
    obtain ⟨q', hq', rfl⟩ := hi
    have hwithin := hd.within q' (List.mem_of_getElem? hq')
    rw [hlength]
    split
    · exact Workspace.within_updateOutline hwithin
    · exact hwithin

end Kept

/-- Work keeps the first queries, and what it comes to has a property. -/
def Keeps (n : Nat) (work : Work Desk α) (result : α → Prop) : Prop :=
  ∀ d : Desk, n ≤ d.workspace.queries.length → Kept n d (perform work d).2
    ∧ ∀ a, (perform work d).1 = .ok a → result a

namespace Keeps

variable {result : α → Prop} {result' : β → Prop}

theorem bind {work : Work Desk α} {next : α → Work Desk β} (h : Keeps n work result)
    (hnext : ∀ a, result a → Keeps n (next a) result') : Keeps n (work >>= next) result' := by
  intro d hd
  obtain ⟨hkept, hresult⟩ := h d hd
  rw [perform_bind]
  rcases hwork : perform work d with ⟨fault | a, d'⟩
  · rw [hwork] at hkept
    exact ⟨hkept, nofun⟩
  · rw [hwork] at hkept hresult
    obtain ⟨hkept', hresult'⟩ := hnext a (hresult a rfl) d' (Nat.le_trans hd hkept.length)
    exact ⟨hkept.trans hkept', hresult'⟩

theorem pure {a : α} (ha : result a) : Keeps n (Pure.pure a) result := by
  intro d _
  rw [perform_pure]
  exact ⟨.refl n d, by rintro _ ⟨⟩; exact ha⟩

theorem throw (fault : Fault) : Keeps n (throw fault : Work Desk α) result :=
  fun d _ => ⟨.refl n d, nofun⟩

theorem lift (outcome : Except Fault α) : Keeps n (liftM outcome : Work Desk α) fun _ => True :=
  fun d _ => ⟨.refl n d, fun _ _ => trivial⟩

theorem view (id : Nat) : Keeps n (view id) fun _ => True :=
  fun d _ => ⟨.refl n d, fun _ _ => trivial⟩

/-- The number of a copy is not among the first ones. -/
theorem copy (id : Nat) : Keeps n (copy id) (n ≤ ·) := by
  intro d hd
  rw [perform_copy]
  exact ⟨.withQuery hd id, by rintro _ ⟨⟩; exact hd⟩

theorem change (f : Outline → Outline) (hid : n ≤ id) : Keeps n (change id f) fun _ => True :=
  fun _ _ => ⟨.withChange f hid, fun _ _ => trivial⟩

theorem send (exchange : Connection → Value → Value → Connection × Except Fault Http.Request)
    (sql : String) (values : Except Fault (List Value)) :
    Keeps n (send exchange sql values) fun _ => True := by
  intro d _
  rw [perform_send]
  exact ⟨.withConnection n d _, fun _ _ => trivial⟩

theorem read (id : Nat) : Keeps n (read id) fun _ => True :=
  (view id).bind fun _ _ => (lift _).bind fun _ _ => send _ _ _

theorem rows (id : Nat) (columns : Argument) : Keeps n (rows id columns) fun _ => True := by
  refine (view id).bind fun w _ => ?_
  split
  · exact read id
  · refine (copy id).bind fun id hid => (lift _).bind fun _ _ => ?_
    exact (change _ hid).bind fun _ _ => read id

theorem firstRow (id : Nat) : Keeps n (firstRow id) fun _ => True := by
  refine (copy id).bind fun id hid => (view id).bind fun w _ => ?_
  exact (change _ hid).bind fun _ _ => rows id _

theorem existence (id : Nat) : Keeps n (existence id) fun _ => True :=
  (view id).bind fun _ _ => (lift _).bind fun _ _ => send _ _ _

theorem overRows (id : Nat) (function columns : Argument) :
    Keeps n (overRows id function columns) fun _ => True := by
  refine (copy id).bind fun id hid => (view id).bind fun w _ => ?_
  refine (change _ hid).bind fun _ _ => (lift _).bind fun columns _ => ?_
  exact (change _ hid).bind fun _ _ => rows id _

theorem write (id : Nat) (rows : Value) : Keeps n (write id rows) fun _ => True := by
  unfold Desk.write
  split
  · exact pure trivial
  · refine (view id).bind fun w _ => (lift _).bind fun rows _ => (lift _).bind fun sql _ => ?_
    exact (send _ _ _).bind fun _ _ => pure trivial

/-- Terminals change nothing but the copies that they make. -/
theorem ask (id : Nat) (terminal : Terminal) (arguments : List Argument) :
    Keeps n (ask id terminal arguments) fun _ => True := by
  unfold Desk.ask
  split
  case h_1 => exact (view id).bind fun _ _ => (lift _).bind fun _ _ => pure trivial
  case h_2 => exact (view id).bind fun _ _ => (lift _).bind fun _ _ => pure trivial
  case h_3 =>
    refine (view id).bind fun w _ => (lift _).bind fun sql _ => (lift _).bind fun values _ => ?_
    exact (lift _).bind fun _ _ => pure trivial
  case h_4 columns => exact (rows id columns).bind fun _ _ => lift _
  case h_5 => exact (firstRow id).bind fun _ _ => lift _
  case h_6 => exact (existence id).bind fun _ _ => lift _
  case h_7 function columns => exact (overRows id function columns).bind fun _ _ => lift _
  case h_8 function column => exact (overRows id _ _).bind fun _ _ => lift _
  case h_9 values =>
    refine (write id _).bind fun sent _ => ?_
    cases sent with
    | none => exact pure trivial
    | some r => exact lift _
  case h_10 => exact throw _

end Keeps

/-! ## What is answered -/

/-- What comes of a plan, and the connection then. -/
def carryOut (connection : Option Connection) (terminal : Terminal) :
    Except Fault Plan → Except Fault Terminal.Reply × Option Connection
  | .error fault => (.error fault, connection)
  | .ok (.answer v) => (.ok (.value v), connection)
  | .ok (.read sql values) =>
    let (outcome, connection) := deliver (·.select · ·) sql values connection
    (outcome.bind terminal.reply, connection)
  | .ok (.write sql values) =>
    let (outcome, connection) := deliver (·.write · ·) sql values connection
    (outcome.bind terminal.reply, connection)

theorem carryOut_some (c : Connection) (g : Grammar) (q : Query) (terminal : Terminal)
    (arguments : List Argument) : carryOut (some c) terminal (terminal.plan g q arguments)
      = ((c.ask g q terminal arguments).2, some (c.ask g q terminal arguments).1) := by
  unfold Connection.ask
  cases terminal.plan g q arguments with
  | error fault => rfl
  | ok plan =>
    cases plan with
    | answer v => rfl
    | read sql values => cases values <;> rfl
    | write sql values => cases values <;> rfl

theorem carryOut_none (g : Grammar) (q : Query) (terminal : Terminal)
    (arguments : List Argument) : carryOut none terminal (terminal.plan g q arguments)
      = ((terminal.answer g q arguments).map .value, none) := by
  unfold Terminal.answer
  cases terminal.plan g q arguments with
  | error fault => rfl
  | ok plan => cases plan <;> rfl

/-- What comes of work, and the connection behind it. -/
def outcome (work : Work Desk α) (d : Desk) : Except Fault α × Option Connection :=
  ((perform work d).1, (perform work d).2.connection)

section Answers

variable {d : Desk} (terminal : Terminal)

theorem outcome_of_perform_eq {work work' : Work Desk Http.Request} {d' : Desk}
    (h : perform work d = perform work' d') :
    outcome (do terminal.reply (← work)) d = outcome (do terminal.reply (← work')) d' := by
  rw [outcome, outcome, perform_bind, perform_bind, h]

theorem outcome_of_perform_error {work : Work Desk Http.Request} {fault : Fault} {d' : Desk}
    (h : perform work d = (.error fault, d')) :
    outcome (do terminal.reply (← work)) d = (.error fault, d'.connection) := by
  rw [outcome, perform_bind, h]

theorem outcome_send (text : Except Fault String) (values : Except Fault (List Value)) (d : Desk) :
    outcome (do terminal.reply (← (do send (·.select · ·) (← text) values : Work Desk Http.Request))) d
      = carryOut d.connection terminal (do return .read (← text) values) := by
  cases text with
  | error fault => rfl
  | ok sql =>
    simp only [outcome, perform_bind, perform_lift, perform_send]
    rcases h : deliver (·.select · ·) sql values d.connection with ⟨_ | r, connection⟩ <;>
      simp only [ok_bind, pure, Except.pure, carryOut, h, Except.bind]

theorem reading_snapshotOf (d : Desk) (id : Nat) :
    (d.snapshotOf id).reading d.workspace.grammar
      = do return .read (← (d.viewed id).sql) (d.viewed id).bindings := rfl

theorem perform_read (id : Nat) (d : Desk) :
    perform (read id) d = perform (do
      send (·.select · ·) (← (d.viewed id).sql) (d.viewed id).bindings : Work Desk Http.Request) d := by
  rw [read, perform_bind, perform_view]

theorem outcome_read (id : Nat) (d : Desk) :
    outcome (do terminal.reply (← read id)) d
      = carryOut d.connection terminal ((d.snapshotOf id).reading d.workspace.grammar) := by
  rw [outcome_of_perform_eq terminal (perform_read id d), outcome_send, reading_snapshotOf]

theorem modify_concat {β : Type} (l : List β) (a : β) (f : β → β) :
    (l ++ [a]).modify l.length f = l ++ [f a] := by
  induction l with
  | nil => rfl
  | cons b l ih => rw [List.cons_append, List.length_cons, List.modify_succ_cons, ih]; rfl

/-- The desk with a changed copy of a query. -/
def withCopy (d : Desk) (id : Nat) (f : Outline → Outline) : Desk :=
  d.withQuery ((d.viewed id).expansion.updateOutline f)

theorem perform_change_copy (f f' : Outline → Outline) (d : Desk) (id : Nat) :
    perform (change d.workspace.queries.length f') (d.withCopy id f)
      = (.ok (), d.withCopy id (f' ∘ f)) := by
  rw [perform_change]
  simp only [withCopy, withQuery, modify_concat]
  rfl

theorem perform_rows_null (id : Nat) (d : Desk) :
    perform (rows id (.value .null)) d = perform (read id) d := by
  rw [rows, perform_bind, perform_view]
  rfl

/-- Reading with a changed copy answers what reading with the changed query does. -/
theorem outcome_read_copy (hd : d.workspace.Sound) (hid : id < d.workspace.queries.length)
    (f : Outline → Outline) :
    outcome (do terminal.reply (← read d.workspace.queries.length)) (d.withCopy id f)
      = carryOut d.connection terminal
        (((d.snapshotOf id).updateOutline f).reading d.workspace.grammar) := by
  have hsound : (d.viewed id).Sound := ⟨hd.within, hd.names, hid⟩
  have hview : (d.withCopy id f).viewed d.workspace.queries.length = (d.viewed id).onExpansion f := rfl
  rw [outcome_read, reading_snapshotOf, hview, Workspace.sql_onExpansion hsound,
    Workspace.bindings_onExpansion hsound]
  rfl

theorem copy_eq_withCopy (d : Desk) (id : Nat) :
    perform (copy id) d = (.ok d.workspace.queries.length, d.withCopy id fun o => o) := by
  rw [perform_copy, withCopy, Workspace.updateOutline_self]

theorem query_withCopy (d : Desk) (id : Nat) (f : Outline → Outline) :
    ((d.withCopy id f).viewed d.workspace.queries.length).query
      = (d.viewed id).expansion.updateOutline f := by
  simp only [withCopy, withQuery, viewed, Workspace.query, List.getElem?_concat_length,
    Option.getD_some]

theorem outline_snapshotOf (d : Desk) (id : Nat) :
    (d.snapshotOf id).outline = (d.viewed id).query.outline := by
  rw [snapshotOf, Workspace.snapshot]
  cases (d.viewed id).query
  rfl

theorem isEmpty_unions_resolve (find : Nat → Source) (q : Query) :
    (q.resolve find).unions.isEmpty = q.unions.isEmpty := by
  obtain ⟨outline, joins, conditions, havings, unions⟩ := q
  cases unions <;> rfl

theorem isEmpty_unions_withCopy (d : Desk) (id : Nat) :
    ((d.withCopy id fun o => o).viewed d.workspace.queries.length).query.unions.isEmpty
      = (d.snapshotOf id).unions.isEmpty := by
  rw [query_withCopy, Workspace.updateOutline_self]
  exact isEmpty_unions_resolve _ _

theorem perform_rows (id : Nat) (columns : Argument) (d : Desk) : perform (rows id columns) d
    = if columns.opaqueValue.isNull || (d.snapshotOf id).outline.columns.isSome then
        perform (read id) d
      else match columns.elements with
        | .error fault => (.error fault, d.withCopy id fun o => o)
        | .ok values => perform (read d.workspace.queries.length)
          (d.withCopy id ({ · with columns := some values })) := by
  rw [outline_snapshotOf, rows, perform_bind, perform_view]
  simp only
  split
  · rfl
  · simp only [perform_bind, copy_eq_withCopy, perform_lift]
    cases columns.elements with
    | error fault => rfl
    | ok values => simp only [perform_change_copy]; rfl

theorem withColumns_eq (columns : Argument) (q : Query) : q.withColumns columns
    = if columns.opaqueValue.isNull || q.outline.columns.isSome then .ok q
      else do
        let columns ← columns.elements
        return q.updateOutline ({ · with columns := some columns }) := by
  unfold Query.withColumns
  split
  · rfl
  · rename_i hown
    rw [hown, Option.isSome_some, Bool.or_true, if_pos rfl]
  · rename_i hnull hown
    have hcolumns : ∀ columns : Argument, (columns = .value .null → False) →
        columns.opaqueValue.isNull = false := by
      intro columns h
      cases columns with
      | value v => cases v <;> first | rfl | exact (h rfl).elim
      | _ => rfl
    rw [hown, hcolumns _ hnull]
    rfl

theorem outcome_rows (hd : d.workspace.Sound) (hid : id < d.workspace.queries.length)
    (columns : Argument) : outcome (do terminal.reply (← rows id columns)) d
      = carryOut d.connection terminal
        ((d.snapshotOf id).withColumns columns >>= (·.reading d.workspace.grammar)) := by
  have hrows := perform_rows id columns d
  rw [withColumns_eq]
  split at hrows
  · rename_i hown
    rw [outcome_of_perform_eq terminal hrows, if_pos hown]
    exact outcome_read terminal id d
  · rename_i hown
    rw [if_neg hown]
    cases helements : columns.elements with
    | error fault =>
      rw [helements] at hrows
      exact (outcome_of_perform_error terminal hrows).trans rfl
    | ok values =>
      rw [helements] at hrows
      exact (outcome_of_perform_eq terminal hrows).trans (outcome_read_copy terminal hd hid _)

theorem perform_firstRow (id : Nat) (d : Desk) :
    perform (firstRow id) d = perform (read d.workspace.queries.length) (d.withCopy id fun o =>
      if !(d.snapshotOf id).unions.isEmpty then { o with unionLimit := some 1 }
      else { o with limit := some 1 }) := by
  rw [firstRow, perform_bind, copy_eq_withCopy]
  simp only [perform_bind, perform_view, perform_change_copy, perform_rows_null,
    isEmpty_unions_withCopy]
  rfl

theorem outcome_firstRow (hd : d.workspace.Sound) (hid : id < d.workspace.queries.length) :
    outcome (do terminal.reply (← firstRow id)) d
      = carryOut d.connection terminal
        ((d.snapshotOf id).limit (.value (.int 1)) >>= (·.reading d.workspace.grammar)) := by
  rw [outcome_of_perform_eq terminal (perform_firstRow id d), outcome_read_copy terminal hd hid]
  have hlimit : (d.snapshotOf id).limit (.value (.int 1)) = .ok ((d.snapshotOf id).updateOutline
      fun o => if (d.snapshotOf id).unions.isEmpty then { o with limit := some 1 }
        else { o with unionLimit := some 1 }) := rfl
  rw [hlimit]
  cases (d.snapshotOf id).unions.isEmpty <;> rfl

theorem outcome_existence (id : Nat) (d : Desk) : outcome (do terminal.reply (← existence id)) d
      = carryOut d.connection terminal (do
        return .read (← d.workspace.grammar.existence (d.snapshotOf id))
          (d.snapshotOf id).bindings) := by
  have hperform : perform (existence id) d = perform (do
      send (·.select · ·) (← d.workspace.grammar.existence (d.snapshotOf id))
        (d.snapshotOf id).bindings : Work Desk Http.Request) d := by
    rw [existence, perform_bind, perform_view]
    rfl
  rw [outcome_of_perform_eq terminal hperform, outcome_send]

theorem perform_overRows (id : Nat) (d : Desk) (function columns : Argument) :
    perform (overRows id function columns) d
      = match (if columns.isTruthy then columns.elements else .ok [.text "*"] :
          Except Fault (List Value)) with
        | .error fault => (.error fault, d.withCopy id fun o =>
            { o with
              columns := if !(d.snapshotOf id).unions.isEmpty then o.columns else none
              orders := [] })
        | .ok columns => perform (read d.workspace.queries.length) (d.withCopy id fun o =>
            { o with
              columns := if !(d.snapshotOf id).unions.isEmpty then o.columns else none
              orders := []
              aggregate := some { function := function.text, columns } }) := by
  rw [overRows, perform_bind, copy_eq_withCopy]
  simp only [perform_bind, perform_view, perform_change_copy, perform_lift, perform_rows_null,
    isEmpty_unions_withCopy]
  generalize (if columns.isTruthy then columns.elements else .ok [.text "*"] :
    Except Fault (List Value)) = chosen
  cases chosen with
  | error fault => rfl
  | ok columns => simp only [perform_change_copy]; rfl

theorem outcome_overRows (hd : d.workspace.Sound) (hid : id < d.workspace.queries.length)
    (function columns : Argument) :
    outcome (do terminal.reply (← overRows id function columns)) d
      = carryOut d.connection terminal
        ((d.snapshotOf id).aggregated function columns >>= (·.reading d.workspace.grammar)) := by
  have hperform := perform_overRows id d function columns
  have hplan : (d.snapshotOf id).aggregated function columns = do
      let columns ← (if columns.isTruthy then columns.elements else .ok [.text "*"] :
        Except Fault (List Value))
      return (d.snapshotOf id).updateOutline fun o => { o with
        columns := if (d.snapshotOf id).unions.isEmpty then none else o.columns
        orders := []
        aggregate := some { function := function.text, columns } } := by
    unfold Query.aggregated
    cases columns.isTruthy <;> rfl
  rw [hplan]
  cases hchosen : (if columns.isTruthy then columns.elements else .ok [.text "*"] :
    Except Fault (List Value)) with
  | error fault =>
    rw [hchosen] at hperform
    exact (outcome_of_perform_error terminal hperform).trans rfl
  | ok values =>
    rw [hchosen] at hperform
    rw [outcome_of_perform_eq terminal hperform, outcome_read_copy terminal hd hid]
    cases (d.snapshotOf id).unions.isEmpty <;> rfl

theorem outcome_write (id : Nat) (d : Desk) (rows : Value) :
    outcome (do
        match ← write id rows with
        | some r => terminal.reply r
        | none => return .value .null) d
      = carryOut d.connection terminal ((d.snapshotOf id).inserting d.workspace.grammar rows) := by
  have hsnapshot : ∀ rows, (d.viewed id).grammar.insert
      ((d.viewed id).snapshot (d.viewed id).query) rows
      = d.workspace.grammar.insert (d.snapshotOf id) rows := fun _ => rfl
  rw [outcome, perform_bind, write, Query.inserting]
  cases rows.isTruthy with
  | false => rfl
  | true =>
    simp only [Bool.not_true, Bool.false_eq_true, if_false, perform_bind, perform_view, perform_lift,
      hsnapshot]
    cases Grammar.insertedRows rows with
    | error fault => rfl
    | ok rows =>
      simp only [ok_bind]
      cases d.workspace.grammar.insert (d.snapshotOf id) (.list rows) with
      | error fault => rfl
      | ok sql =>
        simp only [perform_send]
        rcases h : deliver (·.write · ·) sql (Grammar.insertedValues (.list rows)) d.connection
          with ⟨_ | r, connection⟩ <;>
          simp only [ok_bind, pure, Except.pure, carryOut, h, Except.bind]
        rfl

/-- Terminals answer what their plan for the query with all it refers to comes to. -/
theorem outcome_ask (hd : d.workspace.Sound) (hid : id < d.workspace.queries.length)
    (arguments : List Argument) : outcome (ask id terminal arguments) d
      = carryOut d.connection terminal
        (terminal.plan d.workspace.grammar (d.snapshotOf id) arguments) := by
  have hsql : (d.viewed id).sql = d.workspace.grammar.query (d.snapshotOf id) := rfl
  have hbindings : (d.viewed id).bindings = (d.snapshotOf id).bindings := rfl
  unfold ask
  split
  case h_1 =>
    simp only [outcome, perform_bind, perform_view, perform_lift, hsql, Terminal.plan]
    cases d.workspace.grammar.query (d.snapshotOf id) <;> rfl
  case h_2 =>
    simp only [outcome, perform_bind, perform_view, perform_lift, hbindings, Terminal.plan]
    cases (d.snapshotOf id).bindings <;> rfl
  case h_3 =>
    simp only [outcome, perform_bind, perform_view, perform_lift, hsql, hbindings, Terminal.plan]
    cases d.workspace.grammar.query (d.snapshotOf id) with
    | error fault => rfl
    | ok sql =>
      simp only [ok_bind]
      cases (d.snapshotOf id).bindings with
      | error fault => rfl
      | ok values =>
        simp only [ok_bind]
        cases Sql.bind sql (.list values) <;> rfl
  case h_4 columns => exact outcome_rows .get hd hid columns
  case h_5 => exact outcome_firstRow .first hd hid
  case h_6 => exact outcome_existence .hasRows id d
  case h_7 function columns => exact outcome_overRows .aggregate hd hid function columns
  case h_8 function column => exact outcome_overRows (.overColumn function) hd hid _ _
  case h_9 rows => exact outcome_write .insert id d rows.opaqueValue
  case h_10 =>
    have hplan : terminal.plan d.workspace.grammar (d.snapshotOf id) arguments
        = .error .wrongKind := by
      rw [Terminal.plan] <;> assumption
    rw [hplan]
    rfl

end Answers

/-! ## Desks that can come about -/

/-- Desks that can come about: queries are built, connections come and go, and queries are asked. -/
inductive Reachable : Desk → Prop where
  | start (grammar : Grammar) : Reachable { workspace := { grammar } }
  | step {d : Desk} (s : Workspace.Step) (hd : Reachable d) (hs : s.Fits d.workspace) :
      Reachable { d with workspace := (d.workspace.step s).1 }
  | connect {d : Desk} (connection : Option Connection) (hd : Reachable d) :
      Reachable { d with connection }
  | ask {d : Desk} (id : Nat) (terminal : Terminal) (arguments : List Argument)
      (hd : Reachable d) : Reachable (perform (ask id terminal arguments) d).2

theorem kept_ask (id : Nat) (terminal : Terminal) (arguments : List Argument) (d : Desk) :
    Kept d.workspace.queries.length d (perform (ask id terminal arguments) d).2 :=
  (Keeps.ask id terminal arguments d (Nat.le_refl _)).1

/-- What can be built can be built on a desk. -/
theorem Reachable.of_workspace {w : Workspace} (hw : w.Reachable) :
    Reachable { workspace := w } := by
  induction hw with
  | start grammar => exact .start grammar
  | step s hw hs ih => exact ih.step s hs

theorem Reachable.sound {d : Desk} (hd : d.Reachable) : d.workspace.Sound := by
  induction hd with
  | start grammar => exact Workspace.sound_start grammar
  | step s hd hs ih => exact ih.step hs
  | connect connection hd ih => exact ih
  | ask id terminal arguments hd ih => exact (kept_ask id terminal arguments _).sound ih

/-- A terminal answers from the query with all it refers to, as it stands, and the query and all
others are and read the same behind it, whether it succeeds or fails, and whatever the connection
answers. -/
theorem ask_leaves_queries {d : Desk} (hd : d.Reachable) (hid : id < d.workspace.queries.length)
    (terminal : Terminal) (arguments : List Argument) :
    let d' := (perform (ask id terminal arguments) d).2
    (outcome (ask id terminal arguments) d = match d.connection with
      | some c =>
        let (c, reply) := c.ask d.workspace.grammar (d.snapshotOf id) terminal arguments
        (reply, some c)
      | none =>
        ((terminal.answer d.workspace.grammar (d.snapshotOf id) arguments).map .value, none))
      ∧ d'.workspace.grammar = d.workspace.grammar
      ∧ d'.workspace.names = d.workspace.names
      ∧ d'.workspace.current = d.workspace.current
      ∧ ∀ other < d.workspace.queries.length,
        d'.workspace.queries[other]? = d.workspace.queries[other]?
          ∧ Workspace.ReadAlike d'.workspace other d.workspace other := by
  intro d'
  have hkept : Kept d.workspace.queries.length d d' := kept_ask id terminal arguments d
  refine ⟨?_, hkept.grammar, hkept.names, hkept.current, fun other hother => ?_⟩
  · rw [outcome_ask terminal hd.sound hid]
    cases d.connection with
    | none => exact carryOut_none _ _ _ _
    | some c => exact carryOut_some c _ _ _ _
  · refine ⟨hkept.queries other hother, ?_⟩
    exact Workspace.readAlike_of_older hd.sound hkept.length hkept.queries hother

/-- A query on `t` that is united with another one on `u`. -/
def united : Workspace :=
  [.fresh "inner",
    .clause ⟨.fromTable, [.value (.text "t")], .anything⟩,
    .clause ⟨.union, [.shared 1, .value (.bool true)], .queries⟩,
    .use "inner",
    .clause ⟨.fromTable, [.value (.text "u")], .anything⟩,
    .use "main"].foldl (fun w s => (w.step s).1) {}

/-- Counting changes a copy and then fails, since the connection breaks off; both queries read as
before. -/
theorem ask_leaves_queries_united :
    let broken : Connection := { queue.session.replies := [.failure (.system "broken")] }
    let d : Desk := { workspace := united, connection := some broken }
    let w' := (perform (ask 0 (.overColumn "count") [.value (.text "*")]) d).2.workspace
    d.Reachable
      ∧ united.queries.length = 2
      ∧ united.sql = .ok "(select * from \x60t\x60) union all (select * from \x60u\x60)"
      ∧ Workspace.ReadAlike w' 0 united 0
      ∧ Workspace.ReadAlike w' 1 united 1 := by
  intro broken d w'
  have hunited : united.Reachable := by
    refine .step _ (.step _ (.step _ (.step _ (.step _ (.step _ (.start {}) ?_) ?_) ?_) ?_) ?_) ?_
    · trivial
    · exact ⟨trivial, trivial⟩
    · exact ⟨Nat.one_lt_two, trivial, trivial⟩
    · trivial
    · exact ⟨trivial, trivial⟩
    · trivial
  have hreachable : d.Reachable := (Reachable.of_workspace hunited).connect (some broken)
  obtain ⟨-, -, -, -, hothers⟩ := ask_leaves_queries hreachable Nat.two_pos (.overColumn "count")
    [.value (.text "*")]
  exact ⟨hreachable, rfl, rfl, (hothers 0 Nat.two_pos).2, (hothers 1 Nat.one_lt_two).2⟩

end QueryClient.Desk
