import QueryClient.Connection.Execution

/-!
# Sending statements

There are five ways of sending a statement. Each makes one request, and what it makes is determined
by a few attributes: the level of read-only access, the external tables, the result file, and
whether the body is left to the data of an upload.
-/

namespace QueryClient

open Files (ExternalTable ResultFile)
open Http (Request ResultSink Stream Upload)

/-! ## Requests before anything is sent -/

/-- Nothing is to be sent with the request, and nobody waits for its answer. -/
structure Http.Request.Blank (r : Request) : Prop where
  body : r.body = .null
  files : r.files = []
  upload : r.upload = none
  download : r.download = none
  sink : r.sink = none
  limit : r.limit = none
  hooks : r.hooks = []
  progress : r.progress = none
  runs : r.runs = []
  chunked : r.isChunked = false

namespace Connection

theorem newRequest_blank (c : Connection) : c.newRequest.Blank := by
  unfold newRequest
  constructor
  case chunked =>
    simp only [Request.isChunked]
    cases c.authMethod <;> cases c.settings.httpCompression <;>
      cases (c.settings.sessionId.getD "").isEmpty <;> rfl
  all_goals
    cases c.authMethod <;> cases c.settings.httpCompression <;>
      cases (c.settings.sessionId.getD "").isEmpty <;> rfl

/-- The parameters for a statement with some of its own. -/
def parametersFor (c : Connection) (text : String) (parameters : List (String × Value))
    (inAddress : Bool) : Entries Value :=
  let own := c.ownParameters parameters
  if inAddress then own.put "query" (.text text) else own

theorem statementRequest_eq_ok {c : Connection} {s : Sql.Statement}
    {parameters : List (String × Value)} {inAddress : Bool} {excluded : List String} {r : Request}
    (h : c.statementRequest s parameters inAddress excluded = .ok r) :
    ∃ url, c.url (c.parametersFor s.toSql parameters inAddress) excluded = .ok url
      ∧ r = { c.newRequest with
          sql := some s.toSql
          format := s.format
          url
          body := if inAddress then .null else .text s.toSql } := by
  obtain ⟨url, hurl, hr⟩ := ok_of_bind h
  exact ⟨url, hurl, (Except.ok.inj hr).symm⟩

/-- The request that reads, before a file is opened for the answer. -/
def unopened (c : Connection) (s : Sql.Statement) (tables : List ExternalTable) (url : String) :
    Request :=
  { c.newRequest with
    sql := some s.toSql
    format := s.format
    url
    body := if !tables.isEmpty then .null else .text s.toSql
    files := c.newRequest.files.putAll (ExternalTable.files tables)
    progress := c.listener.map fun _ => .report }

def excludedFor (file : Option ResultFile) : List String :=
  if file.isSome then ["extremes"] else []

/-- The address of a request that reads. -/
def readingUrl (c : Connection) (s : Sql.Statement) (tables : List ExternalTable)
    (file : Option ResultFile) : Except Fault String :=
  c.url (c.parametersFor s.toSql (("readonly", .int 2) :: ExternalTable.parameters tables)
    (!tables.isEmpty)) (excludedFor file)

theorem readRequest_eq_ok {c c' : Connection} {s s' : Sql.Statement} {tables : List ExternalTable}
    {r : Request} (h : c.readRequest s tables none = .ok (c', r, s')) :
    ∃ url, c.readingUrl s tables none = .ok url ∧ c' = c ∧ r = c.unopened s tables url := by
  obtain ⟨r₀, hr₀, h⟩ := ok_of_bind h
  obtain ⟨url, hurl, rfl⟩ := statementRequest_eq_ok hr₀
  cases h
  exact ⟨url, hurl, rfl, rfl⟩

/-- A file is emptied, and the request gets a sink for it that is closed when it completes. -/
theorem readRequest_file_eq_ok {c c' : Connection} {s s' : Sql.Statement}
    {tables : List ExternalTable} {file : ResultFile} {r : Request}
    (h : c.readRequest s tables (some file) = .ok (c', r, s')) :
    ∃ url place, c.readingUrl (s.setFormat (some file.format)) tables (some file) = .ok url
      ∧ c.store.writablePlace file.file = .ok place
      ∧ c' = { c with store := (c.store.openEmpty place).1 }
      ∧ r = { c.unopened (s.setFormat (some file.format)) tables url with
          sink := some { ResultSink.begin place file.gzip c.deflater with
            number := (c.store.openEmpty place).2 }
          hooks := [.closeSink] } := by
  obtain ⟨r₀, hr₀, h⟩ := ok_of_bind h
  obtain ⟨url, hurl, rfl⟩ := statementRequest_eq_ok hr₀
  obtain ⟨⟨c₁, r₁⟩, hopened, h⟩ := ok_of_bind h
  cases h
  simp only [openSink] at hopened
  cases hplace : c.store.writablePlace file.file with
  | error fault => rw [hplace] at hopened; cases hopened
  | ok place =>
      rw [hplace] at hopened
      cases hopened
      refine ⟨url, place, hurl, rfl, rfl, ?_⟩
      simp only [Request.addHook, Request.attachFiles, c.newRequest_blank.hooks]
      rfl

end Connection

theorem Http.Stream.attach_eq_ok {s : Stream} {r r' : Request} (h : s.attach r = .ok r') :
    ∃ headers, Entries.find? "Transfer-Encoding" headers = some (.text "chunked")
      ∧ r' = if s.kind = .upload then { r with headers, upload := some s.upload }
          else { r with headers, download := some [] } := by
  obtain ⟨upload, hupload, h⟩ := ok_of_bind h
  obtain ⟨_, _, h⟩ := ok_of_bind h
  cases h
  cases hkind : s.kind with
  | bare => simp only [isWrite, hkind] at hupload; cases hupload
  | download | upload =>
      simp only [isWrite, hkind, Except.ok.injEq] at hupload
      subst hupload
      cases s.gzip <;> exact ⟨_, by exact Entries.find?_put_self _ _ _, rfl⟩

/-! ## Ways of sending -/

/-- The ways of sending a statement. -/
inductive Sending where
  | select (tables : List ExternalTable) (file : Option ResultFile)
  /-- Reading through the queue. -/
  | selectLater (tables : List ExternalTable) (file : Option ResultFile)
  | write (raises : Bool)
  | streamRead (s : Stream)
  | streamWrite (s : Stream)

namespace Sending

/-- The request that is made. -/
def request (c : Connection) (sql bindings : Value) :
    Sending → Except Fault (Connection × Request)
  | select tables file | selectLater tables file => c.reading sql bindings tables file
  | write _ => do return (c, ← c.writeRequest (← Connection.writeStatement sql bindings))
  | streamRead s => do
    let (c, r, _) ← c.readRequest (← Connection.streamStatement sql bindings) [] none
    return (c, ← s.attach r)
  | streamWrite s => do
    return (c, ← s.attach (← c.uploadRequest (← Connection.streamStatement sql bindings)))

/-- The connection afterwards. -/
def after (c : Connection) (sql bindings : Value) : Sending → Connection
  | select tables file => (c.select sql bindings tables file).1
  | selectLater tables file => (c.selectLater sql bindings tables file).1
  | write raises => (c.write sql bindings raises).1
  | streamRead s => (c.streamRead s sql bindings).1
  | streamWrite s => (c.streamWrite s sql bindings).1

/-! ## Attributes -/

def tables : Sending → List ExternalTable
  | select tables _ | selectLater tables _ => tables
  | write _ | streamRead _ | streamWrite _ => []

def file : Sending → Option ResultFile
  | select _ file | selectLater _ file => file
  | write _ | streamRead _ | streamWrite _ => none

def reads : Sending → Bool
  | select .. | selectLater .. | streamRead _ => true
  | write _ | streamWrite _ => false

/-- The level of read-only access. -/
def level (call : Sending) : Int :=
  if call.reads then 2 else 0

def isUpload : Sending → Bool
  | streamWrite _ => true
  | select .. | selectLater .. | write _ | streamRead _ => false

def stream? : Sending → Option Stream
  | streamRead s | streamWrite s => some s
  | select .. | selectLater .. | write _ => none

/-- The data that a stream gives for the body. -/
def upload (call : Sending) : Option Upload :=
  call.stream?.bind fun s => if s.kind = .upload then some s.upload else none

/-- The statement travels in the address. -/
def inAddress (call : Sending) : Bool :=
  call.isUpload || !call.tables.isEmpty

/-- The parameters of the request's own. -/
def own (c : Connection) (text : String) (call : Sending) : Entries Value :=
  if call.isUpload then c.ownParameters [("readonly", .int 0), ("query", .text text)]
  else c.parametersFor text
    (("readonly", .int call.level) :: ExternalTable.parameters call.tables) call.inAddress

/-- What the request of a call is made of. -/
structure Makes (call : Sending) (c : Connection) (s : Sql.Statement) (r : Request) : Prop where
  url : c.url (call.own c s.toSql) (Connection.excludedFor call.file) = .ok r.url
  sql : r.sql = some s.toSql
  body : r.body = if call.inAddress then .null else .text s.toSql
  files : r.files = Entries.putAll [] (ExternalTable.files call.tables)
  upload : r.upload = call.upload
  chunked : r.isChunked = call.stream?.isSome

theorem Makes.attach {call : Sending} {c : Connection} {statement : Sql.Statement} {s : Stream}
    {r r' : Request} (hstream : call.stream? = some s) (h : s.attach r = .ok r')
    (hurl : c.url (call.own c statement.toSql) (Connection.excludedFor call.file) = .ok r.url)
    (hsql : r.sql = some statement.toSql)
    (hbody : r.body = if call.inAddress then .null else .text statement.toSql)
    (hfiles : r.files = Entries.putAll [] (ExternalTable.files call.tables))
    (hupload : r.upload = none) : Makes call c statement r' := by
  obtain ⟨headers, hheaders, rfl⟩ := Stream.attach_eq_ok h
  have hchunked {r : Request} (hr : r.headers = headers) : r.isChunked = true := by
    rw [Request.isChunked, hr, hheaders]
    rfl
  split
  · rename_i hkind
    exact ⟨hurl, hsql, hbody, hfiles, by simp [Sending.upload, hstream, hkind],
      by rw [hchunked rfl, hstream]; rfl⟩
  · rename_i hkind
    exact ⟨hurl, hsql, hbody, hfiles, by simp [Sending.upload, hstream, hkind, hupload],
      by rw [hchunked rfl, hstream]; rfl⟩

/-- The request of a call. Making it changes nothing of the connection but its files. -/
theorem exists_makes {call : Sending} {c c' : Connection} {sql bindings : Value} {r : Request}
    (h : call.request c sql bindings = .ok (c', r)) :
    (∃ s, Makes call c s r) ∧ ∃ store, c' = { c with store } := by
  have hblank := c.newRequest_blank
  cases call with
  | select tables file | selectLater tables file =>
      obtain ⟨s, _, h⟩ := ok_of_bind h
      obtain ⟨⟨c₁, r₁, s₁⟩, hread, h⟩ := ok_of_bind h
      cases h
      cases file with
      | none =>
          obtain ⟨url, hurl, rfl, rfl⟩ := Connection.readRequest_eq_ok hread
          refine ⟨⟨s, ⟨hurl, rfl, rfl, ?_, hblank.upload, hblank.chunked⟩⟩, _, rfl⟩
          rw [← hblank.files]
          rfl
      | some file =>
          obtain ⟨url, place, hurl, -, rfl, rfl⟩ := Connection.readRequest_file_eq_ok hread
          refine ⟨⟨_, ⟨hurl, rfl, rfl, ?_, hblank.upload, hblank.chunked⟩⟩, _, rfl⟩
          rw [← hblank.files]
          rfl
  | write raises =>
      obtain ⟨s, _, h⟩ := ok_of_bind h
      obtain ⟨r₁, hr, h⟩ := ok_of_bind h
      cases h
      obtain ⟨url, hurl, rfl⟩ := Connection.statementRequest_eq_ok hr
      exact ⟨⟨s, ⟨hurl, rfl, rfl, hblank.files, hblank.upload, hblank.chunked⟩⟩, _, rfl⟩
  | streamRead stream =>
      obtain ⟨s, _, h⟩ := ok_of_bind h
      obtain ⟨⟨c₁, r₁, s₁⟩, hread, h⟩ := ok_of_bind h
      obtain ⟨r₂, hattach, h⟩ := ok_of_bind h
      cases h
      obtain ⟨url, hurl, rfl, rfl⟩ := Connection.readRequest_eq_ok hread
      have hfiles : (c'.unopened s [] url).files = [] := hblank.files
      exact ⟨⟨s, .attach rfl hattach hurl rfl rfl hfiles hblank.upload⟩, _, rfl⟩
  | streamWrite stream =>
      obtain ⟨s, _, h⟩ := ok_of_bind h
      obtain ⟨r₁, hupload, h⟩ := ok_of_bind h
      obtain ⟨r₂, hattach, h⟩ := ok_of_bind h
      cases h
      obtain ⟨url, hurl, hr⟩ := ok_of_bind hupload
      cases hr
      exact ⟨⟨s, .attach rfl hattach hurl rfl hblank.body hblank.files hblank.upload⟩, _, rfl⟩

/-! ## What is executed -/

theorem fst_raising (outcome : Connection × Except Fault Request) :
    (Connection.raising outcome).1 = outcome.1 := by
  obtain ⟨c, _ | r⟩ := outcome <;> rfl

theorem fst_executeMade (c c' : Connection) (r : Request) :
    (c.executeMade (.ok (c', r))).1 = (c'.execute r).1 := by
  simp only [Connection.executeMade]
  split <;> rename_i h <;> rw [h]

theorem fst_transfer {c c' : Connection} {s : Stream} {r r' : Request} (h : s.attach r = .ok r') :
    (c.transfer s (.ok (c', r))).1 = (c'.execute r').1 := by
  simp only [Connection.transfer, h]
  generalize c'.execute r' = executed
  obtain ⟨c'', r'', _ | fault⟩ := executed
  · exact fst_raising _
  · rfl

theorem fst_transfer_of_error {c c' : Connection} {s : Stream} {r : Request} {fault : Fault}
    (h : s.attach r = .error fault) : (c.transfer s (.ok (c', r))).1 = c' := by
  simp only [Connection.transfer, h]

/-- The request that is made is the one that is executed or put into the queue. -/
theorem after_eq {call : Sending} {c c' : Connection} {sql bindings : Value} {r : Request}
    (h : call.request c sql bindings = .ok (c', r)) :
    call.after c sql bindings = match call with
      | selectLater _ _ => { c' with queue := (c'.queue.enqueue r).1 }.runPending
      | select _ _ | write _ | streamRead _ | streamWrite _ => (c'.execute r).1 := by
  cases call with
  | select tables file =>
      have hmade : c.reading sql bindings tables file = .ok (c', r) := h
      simp only [after, Connection.select, hmade, fst_executeMade]
  | selectLater tables file =>
      have hmade : c.reading sql bindings tables file = .ok (c', r) := h
      simp only [after, Connection.selectLater, hmade]
  | write raises =>
      have hmade : (do return (c, ← c.writeRequest (← Connection.writeStatement sql bindings)))
        = Except.ok (c', r) := h
      simp only [after, Connection.write, hmade]
      split
      · rw [fst_raising, fst_executeMade]
      · rw [fst_executeMade]
  | streamRead s =>
      obtain ⟨statement, hstatement, h⟩ := ok_of_bind h
      obtain ⟨⟨c₁, r₁, s₁⟩, hread, h⟩ := ok_of_bind h
      obtain ⟨r₂, hattach, h⟩ := ok_of_bind h
      cases h
      simp only [after, Connection.streamRead, hstatement, ok_bind, hread]
      exact fst_transfer hattach
  | streamWrite s =>
      obtain ⟨statement, hstatement, h⟩ := ok_of_bind h
      obtain ⟨r₁, hupload, h⟩ := ok_of_bind h
      obtain ⟨r₂, hattach, h⟩ := ok_of_bind h
      cases h
      simp only [after, Connection.streamWrite, hstatement, ok_bind, hupload]
      exact fst_transfer hattach

/-- Where no request can be made, nothing is sent. -/
theorem after_of_error {call : Sending} {c : Connection} {sql bindings : Value} {fault : Fault}
    (h : call.request c sql bindings = .error fault) : call.after c sql bindings = c := by
  cases call with
  | select tables file =>
      have hmade : c.reading sql bindings tables file = .error fault := h
      simp only [after, Connection.select, hmade, Connection.executeMade]
  | selectLater tables file =>
      have hmade : c.reading sql bindings tables file = .error fault := h
      simp only [after, Connection.selectLater, hmade]
  | write raises =>
      have hmade : (do return (c, ← c.writeRequest (← Connection.writeStatement sql bindings)))
        = Except.error fault := h
      simp only [after, Connection.write, hmade]
      split
      · rw [fst_raising]; rfl
      · rfl
  | streamRead s =>
      simp only [after, Connection.streamRead]
      cases hmade : (do
          let (c, r, _) ← c.readRequest (← Connection.streamStatement sql bindings) [] none
          return (c, r)) with
      | error fault => rfl
      | ok made =>
          obtain ⟨statement, hstatement, hmade⟩ := ok_of_bind hmade
          obtain ⟨⟨c₁, r₁, s₁⟩, hread, hmade⟩ := ok_of_bind hmade
          cases hmade
          obtain ⟨url, -, rfl, -⟩ := Connection.readRequest_eq_ok hread
          simp only [request, hstatement, ok_bind, hread] at h
          cases hattach : s.attach r₁ with
          | error fault => exact fst_transfer_of_error hattach
          | ok r₂ => rw [hattach] at h; cases h
  | streamWrite s =>
      simp only [after, Connection.streamWrite]
      cases hmade : (do
          return (c, ← c.uploadRequest (← Connection.streamStatement sql bindings))) with
      | error fault => rfl
      | ok made =>
          obtain ⟨statement, hstatement, hmade⟩ := ok_of_bind hmade
          obtain ⟨r₁, hupload, hmade⟩ := ok_of_bind hmade
          cases hmade
          simp only [request, hstatement, ok_bind, hupload] at h
          cases hattach : s.attach r₁ with
          | error fault => exact fst_transfer_of_error hattach
          | ok r₂ => rw [hattach] at h; cases h

/-! ## Settings -/

theorem settings_execute (c : Connection) (r : Request) : (c.execute r).1.settings = c.settings := rfl

theorem settings_runTickets (c : Connection) (tickets : List Nat) :
    (c.runTickets tickets).settings = c.settings := by
  induction tickets generalizing c with
  | nil => rfl
  | cons ticket tickets ih =>
      rw [Connection.runTickets, ih]
      split <;> rfl

theorem settings_runPending (c : Connection) : c.runPending.settings = c.settings := by
  unfold Connection.runPending
  split
  · rfl
  · exact settings_runTickets c _

/-- No call changes the settings, whether or not it fails. -/
theorem settings_after (c : Connection) (sql bindings : Value) (call : Sending) :
    (call.after c sql bindings).settings = c.settings := by
  cases h : call.request c sql bindings with
  | error fault => rw [after_of_error h]
  | ok made =>
      obtain ⟨c', r⟩ := made
      obtain ⟨-, store, rfl⟩ := exists_makes h
      rw [after_eq h]
      cases call with
      | selectLater tables file => exact settings_runPending _
      | select | write | streamRead | streamWrite => exact settings_execute _ _

end Sending

end QueryClient
