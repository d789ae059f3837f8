import QueryClient.Proofs.Connection.Running
import QueryClient.Proofs.Connection.WireParameters

/-!
# How a statement travels

The statement of a request travels either as its body or as a parameter of its address, and never
both ways: in the address when the body is left to the data of an upload or to the files of external
tables. The text that is reported afterwards is the text that was sent. It travels neither way when a
statement is read with into the stream of an upload, whose data take the place of the body. A host
that brings a query of its own is kept in the address as it is.
-/

namespace QueryClient

open Config (Settings)
open Files (ExternalTable)
open Http (Cargo IsBare Payload Queue Request Sent cargo urlParameters)

/-! ## Carriers -/

/-- The body of a message is a text, as a whole or in one chunk. -/
def Http.Payload.IsText (data : Payload) (text : String) : Prop :=
  data = .whole (Text.encode text) ∨ data = .streamed [[.plain (Text.encode text)]]

namespace Sending

/-- What a call has to send besides its statement: the data of its stream, or the files of its
tables. -/
def data (store : Files.Store) (chunkSize : Int) (call : Sending) : Except Http.Disruption Cargo :=
  match call.upload with
  | some upload => .ok (.upload upload chunkSize)
  | none =>
    if call.isUpload then .ok .nothing
    else (Http.openFiles store (Entries.putAll [] (ExternalTable.files call.tables))).map .files

variable {call : Sending} {c : Connection} {s : Sql.Statement} {r : Request}

theorem isEmpty_files (tables : List ExternalTable) :
    (Entries.putAll [] (ExternalTable.files tables)).isEmpty = tables.isEmpty := by
  have hputAll (es more : Entries String) :
      (es.putAll more).isEmpty = (es.isEmpty && more.isEmpty) := by
    induction more generalizing es with
    | nil => simp [Entries.putAll]
    | cons e more ih =>
        rw [Entries.putAll, List.foldl_cons, ← Entries.putAll, ih]
        cases es with
        | nil => simp [Entries.put]
        | cons e' es => simp only [Entries.put]; split <;> simp
  rw [hputAll, ExternalTable.files, hputAll]
  simp

/-- The data of an upload are all that is sent as body. -/
theorem Makes.cargo_of_upload (h : Makes call c s r) {upload : Http.Upload}
    (hupload : call.upload = some upload) (store : Files.Store) (chunkSize : Int) :
    cargo store chunkSize r = .ok (.upload upload chunkSize) := by
  rw [cargo, h.upload, hupload]

/-- A statement in the body is all that is sent. -/
theorem Makes.cargo_of_body (h : Makes call c s r) (hupload : call.upload = none)
    (hbody : call.inAddress = false) (store : Files.Store) (chunkSize : Int) :
    ∃ data, cargo store chunkSize r = .ok data ∧ data.read.1.IsText s.toSql := by
  have htables : call.tables.isEmpty = true := by
    simp only [inAddress, Bool.or_eq_false_iff, Bool.not_eq_false'] at hbody
    exact hbody.2
  have hfiles : r.files.isEmpty = true := by rw [h.files, isEmpty_files, htables]
  have htext : r.body = .text s.toSql := by rw [h.body, hbody]; rfl
  simp only [cargo, h.upload, hupload, hfiles, htext, Bool.not_true, Bool.false_eq_true, ↓reduceIte,
    Value.isNull]
  split
  · exact ⟨_, rfl, .inr rfl⟩
  · exact ⟨_, rfl, .inl rfl⟩

/-- With a statement in the address, the body is what there is to send besides it. -/
theorem Makes.cargo_of_address (h : Makes call c s r) (haddress : call.inAddress = true)
    (store : Files.Store) (chunkSize : Int) :
    cargo store chunkSize r = call.data store chunkSize := by
  have hbody : r.body = .null := by rw [h.body, haddress]; rfl
  unfold data
  cases hupload : Sending.upload call with
  | some upload => exact h.cargo_of_upload hupload store chunkSize
  | none =>
      simp only [cargo, h.upload, hupload, h.files, isEmpty_files, hbody, Value.isNull, ↓reduceIte]
      cases hstream : call.isUpload with
      | true =>
          have htables : call.tables.isEmpty = true := by
            cases call with
            | streamWrite stream => rfl
            | select | selectLater | write | streamRead => cases hstream
          simp only [htables, Bool.not_true, Bool.false_eq_true, ↓reduceIte]
      | false =>
          have htables : call.tables.isEmpty = false := by
            simpa only [inAddress, hstream, Bool.false_or, Bool.not_eq_true'] using haddress
          simp only [htables, Bool.not_false, Bool.false_eq_true, ↓reduceIte]

/-! ## The statement among the parameters -/

theorem query_arriving_iff (haddress : call.inAddress = true) {text v : String} :
    ("query", v) ∈ (c.settings.effectiveParameters (call.own c text)
        (Connection.excludedFor call.file)).map (fun (name, v) => (name, Http.parameterText v))
      ↔ v = text := by
  have hkept : "query" ∉ c.settings.stripped (Connection.excludedFor call.file) :=
    mt Settings.mem_of_mem_stripped (by decide)
  have hown : (call.own c text).find? "query" = some (.text text) := by
    rw [find?_own_query, if_pos haddress]
  rw [mem_arriving_iff hkept hown]
  simp [Settings.parameterValue]

theorem not_mem_query_arriving (hbody : call.inAddress = false)
    (hquery : c.settings.isSet "query" = false) (text v : String) :
    ("query", v) ∉ (c.settings.effectiveParameters (call.own c text)
        (Connection.excludedFor call.file)).map fun (name, v) => (name, Http.parameterText v) := by
  have hown : (call.own c text).find? "query" = none := by
    rw [find?_own_query, hbody]
    rfl
  have hsettings : c.settings.parameters.find? "query" = none :=
    Entries.find?_eq_none_iff.mpr (Settings.not_mem_names_parameters rfl hquery)
  intro hmem
  obtain ⟨⟨_, w⟩, hw, heq⟩ := List.mem_map.mp hmem
  cases heq
  rw [(Settings.distinct_effectiveParameters _ _ _).mem_iff,
    Settings.find?_effectiveParameters _ (distinct_own c text call), hown, hsettings] at hw
  split at hw <;> cases hw

/-! ## One carrier -/

theorem Makes.url_eq (h : Makes call c s r) :
    ∃ address, c.uri = .ok address ∧ r.url = address ++ "?" ++ Http.queryString
      (c.settings.effectiveParameters (call.own c s.toSql) (Connection.excludedFor call.file)) := by
  obtain ⟨address, haddress, hurl⟩ := ok_of_bind h.url
  exact ⟨address, haddress, (Except.ok.inj hurl).symm⟩

theorem sql_execute (q : Queue) (store : Files.Store) (r : Request) :
    (q.execute store r).2.1.sql = r.sql := by
  obtain ⟨passed, outcome, -, hr⟩ := q.exists_execute_eq store r
  rw [hr, Request.complete_eq]
  rfl

/-- Whenever the request of a call is run, its statement travels one way. In the address it is the
only statement, and the body is what there is to send besides it, as far as that can be read; this is
so for uploads and for external tables. As the body it is all that is sent, and the address has no
statement; only the data of a stream to upload take its place. The statement that is reported is the
one that travels. -/
def CarriedOnce (call : Sending) (r : Request) : Prop :=
  ∃ text, ∀ d d' r', Connection.Runs d r d' r' →
    (Result.ofRequest r').sql = some text
    ∧ ∃ messages, d'.queue.session.sent = d.queue.session.sent ++ messages
      ∧ if call.isUpload ∨ call.tables ≠ [] then
          (∀ m ∈ messages, ∀ v, ("query", v) ∈ urlParameters m.url ↔ v = text)
          ∧ messages.map (·.payload)
            = (call.data d.store d.queue.config.chunkSize).toOption.toList.map (·.read.1)
        else
          ∃ m, messages = [m]
            ∧ (∀ v, ("query", v) ∉ urlParameters m.url)
            ∧ match call.upload with
              | none => m.payload.IsText text
              | some upload => m.payload = (Cargo.upload upload d.queue.config.chunkSize).read.1

theorem statement_carried_once {sql bindings : Value} {c' : Connection}
    (hquery : c.settings.isSet "query" = false) (hhost : ∀ address, c.uri = .ok address → IsBare address)
    (hmade : call.request c sql bindings = .ok (c', r)) : call.CarriedOnce r := by
  obtain ⟨⟨s, hmakes⟩, -⟩ := exists_makes hmade
  obtain ⟨address, haddress, hurl⟩ := hmakes.url_eq
  have hbare : IsBare address := hhost address haddress
  refine ⟨s.toSql, fun d d' r' hruns => ⟨?_, _, hruns.sent, ?_⟩⟩
  · rw [Result.ofRequest, hruns.eq_execute.1, sql_execute, hmakes.sql]
  · have hcarried : call.inAddress = true ↔ (call.isUpload = true ∨ call.tables ≠ []) := by
      simp [inAddress]
    have hcargo : cargo d.store d.queue.config.chunkSize r.markExecuting
        = cargo d.store d.queue.config.chunkSize r := rfl
    have hparameters (data : Cargo) :
        urlParameters (r.markExecuting.carrying data).sent.url
          = (c.settings.effectiveParameters (call.own c s.toSql)
            (Connection.excludedFor call.file)).map fun (name, v) => (name, Http.parameterText v) := by
      rw [show (r.markExecuting.carrying data).sent.url = r.url from rfl, hurl,
        Http.urlParameters_eq hbare]
    split
    · rename_i h
      have hin := hcarried.mpr h
      rw [Queue.messages, hcargo, hmakes.cargo_of_address hin]
      cases hdata : call.data d.store d.queue.config.chunkSize with
      | error reason => exact ⟨fun m hm => (List.not_mem_nil hm).elim, rfl⟩
      | ok data =>
          refine ⟨fun m hm v => ?_, rfl⟩
          obtain rfl := List.mem_singleton.mp hm
          rw [hparameters, query_arriving_iff hin]
    · rename_i h
      have hin : call.inAddress = false := by
        rw [← Bool.not_eq_true, hcarried]
        exact h
      have hnone (data : Cargo) (v : String) :
          ("query", v) ∉ urlParameters (r.markExecuting.carrying data).sent.url := by
        rw [hparameters]
        exact not_mem_query_arriving hin hquery s.toSql v
      cases hupload : call.upload with
      | none =>
          obtain ⟨data, hdata, htext⟩ := hmakes.cargo_of_body hupload hin d.store
            d.queue.config.chunkSize
          rw [Queue.messages, hcargo, hdata]
          exact ⟨_, rfl, hnone data, htext⟩
      | some upload =>
          rw [Queue.messages, hcargo, hmakes.cargo_of_upload hupload]
          exact ⟨_, rfl, hnone _, rfl⟩

def readingTable : Sending :=
  select [⟨"ids.csv", "ids", .text "id UInt8", .text "CSV"⟩] none

theorem statement_carried_once_table :
    ({} : Connection).settings.isSet "query" = false
      ∧ (∀ address, ({} : Connection).uri = .ok address → IsBare address)
      ∧ ∃ c' r, readingTable.request {} (.text "select ?") (.list [.text "?&query="]) = .ok (c', r)
        ∧ readingTable.CarriedOnce r := by
  have haddress : ({} : Connection).uri = .ok "http://127.0.0.1:8123" := rfl
  have hhost (address : String) (h : ({} : Connection).uri = .ok address) : IsBare address := by
    rw [haddress] at h
    cases h
    decide
  cases hmade : readingTable.request {} (.text "select ?") (.list [.text "?&query="]) with
  | error fault =>
      have hok : (readingTable.request {} (.text "select ?")
        (.list [.text "?&query="])).isOk = true := rfl
      rw [hmade] at hok
      cases hok
  | ok made => exact ⟨rfl, hhost, made.1, made.2, rfl, statement_carried_once rfl hhost hmade⟩

/-- The bodies that a call sends with the parameters of their addresses. -/
def outgoing (c : Connection) (sql : String) (call : Sending) :
    List (Payload × List (String × String)) :=
  (call.after c (.text sql) .null).queue.session.sent.map fun m => (m.payload, urlParameters m.url)

/-- Reading into the stream of an upload, a statement travels neither way; and a host can bring a
statement of its own into the address of one that is sent as body. -/
theorem carried_otherwise :
    (∃ payload ps, outgoing {} "select 1" (streamRead { kind := .upload, content := [120] })
          = [(payload, ps)]
        ∧ ¬payload.IsText "select 1" ∧ "query" ∉ ps.map (·.1))
      ∧ ∃ payload ps, outgoing { host := .text "h/?query=x" } "select 1" (write true)
          = [(payload, ps)]
        ∧ payload.IsText "select 1" ∧ ("query", "x?database=default") ∈ ps := by
  constructor
  · refine ⟨.streamed [[.plain [120]]], [("database", "default"), ("extremes", "0"),
      ("readonly", "2"), ("max_execution_time", "20"), ("enable_http_compression", "0")],
      by decide +kernel, ?_, by decide⟩
    rintro (htext | htext)
    · cases htext
    · exact absurd htext (by decide +kernel)
  · exact ⟨.whole (Text.encode "select 1"), [("query", "x?database=default"), ("extremes", "0"),
      ("readonly", "0"), ("max_execution_time", "20"), ("enable_http_compression", "0")],
      by decide +kernel, .inl rfl, by decide⟩

end Sending

end QueryClient
