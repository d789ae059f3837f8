import QueryClient.Proofs.Connection.Desk
import QueryClient.Proofs.Sql.Filling

/-!
# The number of values

Values of a sequence are refused when their number is not that of the placeholders, and nothing is
sent then, on whatever way. The one exception is a sequence without values: it is not counted, and
the statement is sent as it stands.
-/

namespace QueryClient

open Files (ExternalTable ResultFile)
open Http (Stream)
open Sql (Filled Region bind bindPositional placeholderCount)

variable {c : Connection} {sql sql' values : Value} {template out : String} {vs : List Value}
  {fault : Fault}

namespace Value

/-- The values of a sequence, in order. A dictionary is none. -/
def sequence? : Value → Option (List Value)
  | dict _ => none
  | v => v.elements?

/-- The text that values are put into: of SQL, or of a prepared statement. -/
def template? : Value → Option String
  | text s => some s
  | statement s => some s.text
  | _ => none

theorem isTruthy_sequence {v : Value} (h : v.sequence? = some vs) :
    v.isTruthy = !vs.isEmpty := by
  cases v with
  | text s =>
      cases h
      rw [isTruthy, List.isEmpty_map, Bool.eq_iff_iff]
      simp
  | bytes data | bytearray data =>
      cases h
      rw [isTruthy, List.isEmpty_map]
  | list items | tuple items | set items => cases h; rfl
  | _ => cases h

end Value

/-! ## Putting values into a text -/

namespace Sql

theorem bind_sequence (h : values.sequence? = some vs) (template : String) :
    bind template values = if vs.isEmpty then .ok template else bindPositional template vs := by
  unfold bind
  rw [Value.isTruthy_sequence h, Bool.not_not]
  cases vs.isEmpty with
  | true => rfl
  | false =>
      cases values with
      | dict entries => cases h
      | list | tuple | set | text | bytes | bytearray => cases h; rfl
      | _ => cases h

theorem bindPositional_of_count_ne (h : placeholderCount .code template.toList ≠ vs.length) :
    bindPositional template vs
      = .error (.bindingCount (placeholderCount .code template.toList) vs.length) := by
  simp [bindPositional, length_pieces, h]

theorem bind_of_count_ne (hvs : values.sequence? = some vs) (hne : vs ≠ [])
    (h : placeholderCount .code template.toList ≠ vs.length) :
    bind template values
      = .error (.bindingCount (placeholderCount .code template.toList) vs.length) := by
  rw [bind_sequence hvs, if_neg (by simpa using hne), bindPositional_of_count_ne h]

theorem exists_filled_of_count (hvs : values.sequence? = some vs) (hne : vs ≠ [])
    (h : placeholderCount .code template.toList = vs.length) :
    ∃ out : String, Filled .code template.toList vs out.toList (Region.code.run template.toList)
      ∧ bind template values = .ok out := by
  obtain ⟨out, hout⟩ := Filled.exists_of_count .code template.toList vs h
  rw [← String.toList_ofList (l := out)] at hout
  refine ⟨_, hout, ?_⟩
  rw [bind_sequence hvs, if_neg (by simpa using hne), bindPositional_of_filled hout]

/-- Values are refused when there are some and their number is wrong. -/
theorem bind_error_iff (hvs : values.sequence? = some vs) :
    bind template values = .error fault ↔
      vs ≠ [] ∧ placeholderCount .code template.toList ≠ vs.length
        ∧ fault = .bindingCount (placeholderCount .code template.toList) vs.length := by
  by_cases hne : vs = []
  · simp [bind_sequence hvs, hne]
  · by_cases hcount : placeholderCount .code template.toList = vs.length
    · obtain ⟨out, -, hbind⟩ := exists_filled_of_count hvs hne hcount
      simp [hbind, hcount]
    · simp [bind_of_count_ne hvs hne hcount, hne, hcount, eq_comm]

/-- What comes out is the only filling, or without values the text as it stands. -/
theorem bind_ok_iff (hvs : values.sequence? = some vs) :
    bind template values = .ok out ↔ if vs = [] then out = template else
      Filled .code template.toList vs out.toList (Region.code.run template.toList) := by
  rw [bind_sequence hvs]
  by_cases hne : vs = []
  · simp [hne, eq_comm]
  · rw [if_neg (by simpa using hne), if_neg hne]
    exact ⟨filled_of_bindPositional, bindPositional_of_filled⟩

end Sql

/-! ## Sending -/

namespace Connection

/-- Every way of sending a statement with its values fails, and does nothing else. -/
structure Refuses (c : Connection) (sql values : Value) (fault : Fault) : Prop where
  select (tables : List ExternalTable) (file : Option ResultFile) :
    c.select sql values tables file = (c, .error fault)
  selectLater (tables : List ExternalTable) (file : Option ResultFile) :
    c.selectLater sql values tables file = (c, .error fault)
  write (raises : Bool) : c.write sql values raises = (c, .error fault)
  streamRead (s : Stream) : c.streamRead s sql values = (c, s, .error fault)
  streamWrite (s : Stream) : c.streamWrite s sql values = (c, s, .error fault)

/-- Every way of sending a statement with its values sends another one, without values. -/
structure Sends (c : Connection) (sql values sql' : Value) : Prop where
  select (tables : List ExternalTable) (file : Option ResultFile) :
    c.select sql values tables file = c.select sql' .null tables file
  selectLater (tables : List ExternalTable) (file : Option ResultFile) :
    c.selectLater sql values tables file = c.selectLater sql' .null tables file
  write (raises : Bool) : c.write sql values raises = c.write sql' .null raises
  streamRead (s : Stream) : c.streamRead s sql values = c.streamRead s sql' .null
  streamWrite (s : Stream) : c.streamWrite s sql values = c.streamWrite s sql' .null

-- All ways begin with putting the values in, and none looks at them again.
theorem refuses_of_bound (h : bound sql values = .error fault) : c.Refuses sql values fault := by
  have hread : readStatement sql values = .error fault := by rw [readStatement, h]; rfl
  have hwrite : writeStatement sql values = .error fault := by rw [writeStatement, h]; rfl
  have hstream : streamStatement sql values = .error fault := by rw [streamStatement, h]; rfl
  constructor
  · intro tables file
    rw [select, reading, hread]
    rfl
  · intro tables file
    rw [selectLater, reading, hread]
    rfl
  · intro raises
    rw [write, hwrite]
    cases raises <;> rfl
  · intro s
    rw [streamRead, hstream]
    rfl
  · intro s
    rw [streamWrite, hstream]
    rfl

theorem sends_of_bound (h : bound sql values = .ok sql') : c.Sends sql values sql' := by
  have hplain : bound sql values = bound sql' .null := h
  have hread : readStatement sql values = readStatement sql' .null := by
    rw [readStatement, hplain, readStatement]
  have hwrite : writeStatement sql values = writeStatement sql' .null := by
    rw [writeStatement, hplain, writeStatement]
  have hstream : streamStatement sql values = streamStatement sql' .null := by
    rw [streamStatement, hplain, streamStatement]
  constructor
  · intro tables file
    rw [select, reading, hread, select, reading]
  · intro tables file
    rw [selectLater, reading, hread, selectLater, reading]
  · intro raises
    rw [write, hwrite, write]
  · intro s
    rw [streamRead, hstream, streamRead]
  · intro s
    rw [streamWrite, hstream, streamWrite]

/-! ### Putting values into what is sent -/

theorem bound_text (s : String) (values : Value) :
    bound (.text s) values = (bind s values).map .text := by
  cases htruthy : values.isTruthy with
  | true =>
      simp only [bound, htruthy, Bool.not_true, Bool.false_eq_true, if_false]
      cases bind s values <;> rfl
  | false => simp only [bound, Sql.bind, htruthy, Bool.not_false, if_true]; rfl

theorem bound_of_empty (hvs : values.sequence? = some []) (sql : Value) :
    bound sql values = .ok sql := by
  unfold bound
  rw [Value.isTruthy_sequence hvs]
  rfl

theorem bound_of_bind_error (hsql : sql.template? = some template)
    (hvs : values.sequence? = some vs) (hne : vs ≠ [])
    (h : bind template values = .error fault) : bound sql values = .error fault := by
  cases sql with
  | text s => cases hsql; rw [bound_text, h]; rfl
  | statement s =>
      cases hsql
      have htruthy : values.isTruthy = true := by simpa [Value.isTruthy_sequence hvs] using hne
      simp only [bound, htruthy, h]
      rfl
  | _ => cases hsql

/-- The text with the values in it is sent as what it came as, unless it is blank now. -/
theorem bound_of_bind_ok (hsql : sql.template? = some template)
    (hvs : values.sequence? = some vs) (hne : vs ≠ []) (h : bind template values = .ok out) :
    (∃ sql', sql'.template? = some out ∧ bound sql values = .ok sql')
      ∨ Text.isBlankText out = true ∧ bound sql values = .error .emptyStatement := by
  cases sql with
  | text s => cases hsql; exact .inl ⟨.text out, rfl, by rw [bound_text, h]; rfl⟩
  | statement s =>
      cases hsql
      have htruthy : values.isTruthy = true := by simpa [Value.isTruthy_sequence hvs] using hne
      simp only [bound, htruthy, h, ok_bind, Sql.Statement.ofText]
      cases hblank : Text.isBlankText out with
      | true => exact .inr ⟨rfl, rfl⟩
      | false =>
          refine .inl ⟨_, ?_, rfl⟩
          cases s.format with
          | none => rfl
          | some format =>
              simp only [Value.template?]
              split <;> rfl
  | _ => cases hsql

end Connection

/-! ## Asking queries -/

/-- A plan to send a text with values, for writing or for reading. -/
def Plan.sending (writes : Bool) (sql : String) (values : List Value) : Plan :=
  if writes then .write sql (.ok values) else .read sql (.ok values)

namespace Desk

variable (terminal : Terminal) (writes : Bool)

theorem carryOut_of_refuses (h : c.Refuses (.text template) (.list vs) fault) :
    carryOut (some c) terminal (.ok (.sending writes template vs)) = (.error fault, some c) := by
  cases writes with
  | true =>
      simp only [Plan.sending, carryOut, deliver, h.write true, if_true]
      rfl
  | false =>
      simp only [Plan.sending, carryOut, deliver, h.select [] none, Bool.false_eq_true, if_false]
      rfl

theorem carryOut_of_bind (h : bind template (.list vs) = .ok out) :
    carryOut (some c) terminal (.ok (.sending writes template vs))
      = carryOut (some c) terminal (.ok (.sending writes out [])) := by
  have hfilled : c.Sends (.text template) (.list vs) (.text out) :=
    Connection.sends_of_bound (by rw [Connection.bound_text, h]; rfl)
  have hplain : c.Sends (.text out) (.list []) (.text out) :=
    Connection.sends_of_bound (Connection.bound_of_empty rfl _)
  cases writes with
  | true =>
      simp only [Plan.sending, carryOut, deliver, hfilled.write true, hplain.write true, if_true]
  | false =>
      simp only [Plan.sending, carryOut, deliver, hfilled.select [] none, hplain.select [] none,
        Bool.false_eq_true, if_false]

end Desk

/-! ## All ways together -/

/-- Values of a sequence are refused when there are some and their number is wrong; nothing is sent
then, neither directly nor for a query. Otherwise the text is sent with all placeholders filled, but
without values it is sent as it stands. -/
theorem miscount_refused {values : Value} {vs : List Value} (hvs : values.sequence? = some vs)
    (template : String) :
    let n := placeholderCount .code template.toList
    ((∃ fault, bind template values = .error fault) ↔ vs ≠ [] ∧ n ≠ vs.length)
    ∧ (∀ fault, bind template values = .error fault →
        fault = .bindingCount n vs.length ∧ fault.family = .query)
    ∧ (∀ out, bind template values = .ok out ↔ if vs = [] then out = template else
        Filled .code template.toList vs out.toList (Region.code.run template.toList))
    ∧ (∀ (c : Connection) (sql : Value), sql.template? = some template →
        (vs = [] → c.Sends sql values sql)
        ∧ (vs ≠ [] → n ≠ vs.length → c.Refuses sql values (.bindingCount n vs.length))
        ∧ ∀ out, vs ≠ [] → bind template values = .ok out →
          (∃ sql', sql'.template? = some out ∧ c.Sends sql values sql')
          ∨ Text.isBlankText out = true ∧ c.Refuses sql values .emptyStatement)
    ∧ ∀ (d : Desk) (c : Connection) (id : Nat) (terminal : Terminal) (arguments : List Argument)
        (writes : Bool), d.Reachable → d.connection = some c → id < d.workspace.queries.length →
      terminal.plan d.workspace.grammar (d.snapshotOf id) arguments
        = .ok (.sending writes template vs) →
      (vs ≠ [] → n ≠ vs.length → Desk.outcome (Desk.ask id terminal arguments) d
        = (.error (.bindingCount n vs.length), some c))
      ∧ ∀ out, bind template (.list vs) = .ok out → Desk.outcome (Desk.ask id terminal arguments) d
        = Desk.carryOut (some c) terminal (.ok (.sending writes out [])) := by
  intro n
  refine ⟨?_, ?_, ?_, ?_, ?_⟩
  · simp only [Sql.bind_error_iff hvs]
    exact ⟨fun ⟨_, hne, hcount, _⟩ => ⟨hne, hcount⟩, fun ⟨hne, hcount⟩ => ⟨_, hne, hcount, rfl⟩⟩
  · intro fault h
    obtain ⟨-, -, rfl⟩ := (Sql.bind_error_iff hvs).mp h
    exact ⟨rfl, rfl⟩
  · exact fun out => Sql.bind_ok_iff hvs
  · intro c sql hsql
    refine ⟨?_, ?_, ?_⟩
    · rintro rfl
      exact Connection.sends_of_bound (Connection.bound_of_empty hvs sql)
    · intro hne hcount
      exact Connection.refuses_of_bound
        (Connection.bound_of_bind_error hsql hvs hne (Sql.bind_of_count_ne hvs hne hcount))
    · intro out hne h
      obtain ⟨sql', hsql', hbound⟩ | ⟨hblank, hbound⟩ :=
        Connection.bound_of_bind_ok hsql hvs hne h
      · exact .inl ⟨sql', hsql', Connection.sends_of_bound hbound⟩
      · exact .inr ⟨hblank, Connection.refuses_of_bound hbound⟩
  · intro d c id terminal arguments writes hd hc hid hplan
    rw [Desk.outcome_ask terminal hd.sound hid, hc, hplan]
    refine ⟨fun hne hcount => ?_, fun out h => Desk.carryOut_of_bind terminal writes h⟩
    refine Desk.carryOut_of_refuses terminal writes (Connection.refuses_of_bound ?_)
    rw [Connection.bound_text, Sql.bind_of_count_ne rfl hne hcount]
    rfl

/-- A query on `t` with a raw condition and values for it, and a connection. -/
def rawDesk (condition : String) (values : List Value) : Desk where
  workspace := [.clause ⟨.fromTable, [.value (.text "t")], .anything⟩,
    .clause ⟨.filter .sql, [.value (.text condition), .value (.list values),
      .value (.text "and")], .anything⟩].foldl (fun w s => (w.step s).1) {}
  connection := some {}

theorem reachable_rawDesk (condition : String) (values : List Value) :
    (rawDesk condition values).Reachable := by
  have hbuilt : (rawDesk condition values).workspace.Reachable :=
    .step _ (.step _ (.start {}) ⟨trivial, trivial⟩) ⟨trivial, trivial, trivial, trivial⟩
  exact (Desk.Reachable.of_workspace hbuilt).connect (some {})

/-- One value for two placeholders, in a tuple and behind a raw condition. -/
theorem miscount_refused_short :
    (∃ fault, bind "select ?, ?" (.tuple [.int 1]) = .error fault)
      ∧ ({} : Connection).Refuses (.text "select ?, ?") (.tuple [.int 1]) (.bindingCount 2 1)
      ∧ Desk.outcome (Desk.ask 0 .get [.value .null]) (rawDesk "a = ? or b = ?" [.int 1])
        = (.error (.bindingCount 2 1), some {}) := by
  have hplan : Terminal.get.plan (rawDesk "a = ? or b = ?" [.int 1]).workspace.grammar
      ((rawDesk "a = ? or b = ?" [.int 1]).snapshotOf 0) [.value .null]
        = .ok (.sending false "select * from \x60t\x60 where a = ? or b = ?" [.int 1]) := rfl
  have htuple : Value.sequence? (.tuple [.int 1]) = some [.int 1] := rfl
  have hlist : Value.sequence? (.list [.int 1]) = some [.int 1] := rfl
  obtain ⟨hbind, -, -, hsent, -⟩ := miscount_refused htuple "select ?, ?"
  obtain ⟨-, -, -, -, hasked⟩ :=
    miscount_refused hlist "select * from \x60t\x60 where a = ? or b = ?"
  refine ⟨hbind.mpr ⟨by simp, by decide⟩, ?_, ?_⟩
  · exact (hsent {} (.text "select ?, ?") rfl).2.1 (by simp) (by decide)
  · exact (hasked _ {} 0 .get [.value .null] false (reachable_rawDesk _ _) rfl Nat.one_pos
      hplan).1 (by simp) (by decide)

/-- Without values nothing is counted: a text with a placeholder is sent as it stands, also for a
query. -/
theorem miscount_sent :
    placeholderCount .code "select ?".toList = 1
      ∧ bind "select ?" (.list []) = .ok "select ?"
      ∧ (({} : Connection).select (.text "select ?") (.list [])).1.queue.session.sent.map
          (·.payload) = [.whole (Text.encode "select ? FORMAT JSON")]
      ∧ ((Desk.outcome (Desk.ask 0 .get [.value .null]) (rawDesk "a = ?" [])).2.map fun c =>
          c.queue.session.sent.map (·.payload))
        = some [.whole (Text.encode "select * from \x60t\x60 where a = ? FORMAT JSON")] := by
  refine ⟨by decide, rfl, ?_, ?_⟩ <;> decide +kernel

end QueryClient
