import QueryClient.Proofs.Connection.Carrier
import QueryClient.Proofs.Files.AttachedTables

/-!
# External tables on the wire

The files that go with a request and the parameters that declare them are worked out apart from each
other, and the parameters share the address with settings and credentials. Still every table that is
sent is declared and the other way round, both as it was attached last, and all else in the address
is what it is without tables. The settings must not be called like parameters of tables.
-/

namespace QueryClient

open Config (Settings TypedOption)
open Files (Attachment ExternalTable ResultFile baseName)
open Files.Attachment (attachAll last? made)
open Files.ExternalTable (Reserved reserved_format reserved_structure)
open Gzip (Content)
open Http (Payload Queue Request Sent cargo openFiles parametersOf)

variable {attachments : List Attachment} {tables : List ExternalTable} {file : Option ResultFile}
  {c c' : Connection} {text name : String}

/-! ## Settings -/

namespace Config.Settings

variable {s : Settings}

theorem ofName?_of_reserved (h : Reserved name) : TypedOption.ofName? name = none := by
  have hall : ∀ o ∈ TypedOption.all, ¬Reserved o.name := by decide
  refine List.find?_eq_none.mpr fun o ho heq => hall o ho ?_
  rw [beq_iff_eq.mp heq]
  exact h

theorem find?_parameters_of_reserved (hsettings : ∀ name ∈ s.extra.names, ¬Reserved name)
    (h : Reserved name) : s.parameters.find? name = none := by
  have htyped := ofName?_of_reserved h
  refine Entries.find?_eq_none_iff.mpr (not_mem_names_parameters htyped ?_)
  have hextra : Entries.find? name s.extra = none :=
    Entries.find?_eq_none_iff.mpr fun hmem => hsettings name hmem h
  simp only [isSet, htyped, Entries.holds, hextra, Option.isSome_none]

theorem not_mem_stripped_of_reserved (h : Reserved name) :
    name ∉ s.stripped (Connection.excludedFor file) := by
  have hall : ∀ n ∈ ["https", "extremes", "readonly", "enable_http_compression",
      "max_execution_time"], ¬Reserved n := by decide
  exact fun hmem => hall name (mem_of_mem_stripped hmem) h

end Config.Settings

/-! ## Parameters of a request's own -/

namespace Sending

variable {call : Sending}

theorem find?_own_of_ne_query (h : name ≠ "query") :
    (call.own c text).find? name = (Entries.find? name c.authParameters).or
      (Entries.find? name (Entries.putAll []
        (("readonly", .int call.level) :: ExternalTable.parameters call.tables))) := by
  unfold own
  split
  · rename_i hupload
    rw [c.find?_ownParameters]
    cases call with
    | streamWrite stream =>
        congr 1
        simp [Entries.putAll, Entries.put, Entries.find?, Ne.symm h, level, reads, tables,
          ExternalTable.parameters]
    | select | selectLater | write | streamRead => cases hupload
  · rw [find?_parametersFor c text _ _ h, c.find?_ownParameters]

/-- Of the names that are reserved to tables, a request has those of its tables only. -/
theorem find?_own_of_reserved (h : Reserved name) :
    (call.own c text).find? name = Entries.find? name (ExternalTable.parameters call.tables) := by
  have hne {n : String} (hn : ¬Reserved n) : name ≠ n := fun heq => hn (heq ▸ h)
  have hauth := c.find?_authParameters_of_ne (hne (n := "user") (by decide)) (hne (by decide))
  have hreadonly : Entries.find? name [("readonly", Value.int call.level)] = none :=
    if_neg (hne (by decide)).symm
  have hlookup := (ExternalTable.distinct_parameters call.tables).find?_putAll name
    [("readonly", .int call.level)]
  rw [hreadonly, Option.or_none] at hlookup
  rw [find?_own_of_ne_query (hne (by decide)), hauth, Option.none_or]
  exact hlookup

/-- Under any other name but that of the statement, tables make no difference. -/
theorem find?_own_of_not_reserved (h : ¬Reserved name) (hquery : name ≠ "query") :
    (call.own c text).find? name = (Entries.find? name c.authParameters).or
      (Entries.find? name [("readonly", .int call.level)]) := by
  rw [find?_own_of_ne_query hquery, find?_putAll_tables call h]

/-! ## What arrives -/

/-- The parameters that arrive for a statement. -/
def arriving (c : Connection) (text : String) (call : Sending) : List (String × String) :=
  (c.settings.effectiveParameters (call.own c text) (Connection.excludedFor call.file)).map
    fun (name, v) => (name, Http.parameterText v)

theorem distinct_arriving : Entries.Distinct (call.arriving c text) :=
  (Settings.distinct_effectiveParameters _ _ _).map Http.parameterText

theorem mem_arriving_iff_find? {v : String} :
    (name, v) ∈ call.arriving c text
      ↔ (Entries.find? name (c.settings.effectiveParameters (call.own c text)
          (Connection.excludedFor call.file))).map Http.parameterText = some v := by
  rw [distinct_arriving.mem_iff, arriving, Entries.find?_map]

/-- Under a name that is reserved to tables nothing arrives but what the tables declare. -/
theorem mem_arriving_of_reserved (hsettings : ∀ name ∈ c.settings.extra.names, ¬Reserved name)
    (h : Reserved name) {v : String} :
    (name, v) ∈ call.arriving c text
      ↔ (Entries.find? name (ExternalTable.parameters call.tables)).map
          (fun v => Http.parameterText (Settings.parameterValue v)) = some v := by
  rw [mem_arriving_iff_find?, Settings.find?_effectiveParameters _ (distinct_own c text call),
    if_neg (Settings.not_mem_stripped_of_reserved h), find?_own_of_reserved h,
    Settings.find?_parameters_of_reserved hsettings h, Option.or_none, Option.map_map]
  rfl

/-- What arrives under another name but that of the statement is the same with other tables. -/
theorem mem_arriving_congr {call' : Sending} {text' : String} (hlevel : call'.level = call.level)
    (hfile : call'.file = call.file) (h : ¬Reserved name) (hquery : name ≠ "query") {v : String} :
    (name, v) ∈ call.arriving c text ↔ (name, v) ∈ call'.arriving c text' := by
  rw [mem_arriving_iff_find?, mem_arriving_iff_find?,
    Settings.find?_effectiveParameters _ (distinct_own c text call),
    Settings.find?_effectiveParameters _ (distinct_own c text' call'),
    find?_own_of_not_reserved h hquery, find?_own_of_not_reserved h hquery, hlevel, hfile]

end Sending

/-! ## Declarations -/

namespace Files.Attachment

variable (a : Attachment)

/-- The text that declares the columns: a dictionary is written out. -/
def declaredColumns : String :=
  match a.columns with
  | .text s => s
  | .dict entries =>
      Text.join ", " (entries.map fun (name, kind) => name.display ++ " " ++ kind.display)
  | v => Http.parameterText (Settings.parameterValue v)

/-- The text that declares the format. -/
def declaredFormat : String :=
  match a.format with
  | .text s => s
  | v => Http.parameterText (Settings.parameterValue v)

theorem parameterText_columns :
    Http.parameterText (Settings.parameterValue (ExternalTable.columnsOf a.columns))
      = a.declaredColumns := by
  unfold declaredColumns
  cases a.columns with
  | text | dict => exact Http.parameterText_text _
  | _ => rfl

theorem parameterText_format :
    Http.parameterText (Settings.parameterValue a.format) = a.declaredFormat := by
  unfold declaredFormat
  cases a.format with
  | text => exact Http.parameterText_text _
  | _ => rfl

end Files.Attachment

/-! ## Files -/

namespace Http

variable {store : Files.Store} {files : Entries String}

/-- Every file goes out under the name of its table, with its own name and its content. -/
theorem openFiles_eq_ok {parts : Entries (String × Content)}
    (h : openFiles store files = .ok parts) :
    Entries.names parts = Entries.names files
      ∧ ∀ table name content, (table, name, content) ∈ parts ↔
        ∃ path, (table, path) ∈ files ∧ name = baseName path
          ∧ store.content path = .ok content := by
  induction files generalizing parts with
  | nil =>
      cases h
      exact ⟨rfl, fun _ _ _ => ⟨nofun, fun ⟨_, hmem, _⟩ => nomatch hmem⟩⟩
  | cons entry files ih =>
      obtain ⟨table', path'⟩ := entry
      rw [openFiles] at h
      cases hcontent : store.content path' with
      | error fault => rw [hcontent] at h; cases h
      | ok content' =>
          cases hrest : openFiles store files with
          | error reason => rw [hcontent, hrest] at h; cases h
          | ok rest =>
              rw [hcontent, hrest] at h
              cases h
              obtain ⟨hnames, hparts⟩ := ih hrest
              refine ⟨congrArg (table' :: ·) hnames, fun table name content => ?_⟩
              rw [List.mem_cons, hparts]
              constructor
              · rintro (heq | ⟨path, hmem, hpath⟩)
                · cases heq
                  exact ⟨path', List.mem_cons_self, rfl, hcontent⟩
                · exact ⟨path, List.mem_cons_of_mem _ hmem, hpath⟩
              · rintro ⟨path, hmem, rfl, hopened⟩
                rcases List.mem_cons.mp hmem with heq | hmem
                · cases heq
                  rw [hcontent] at hopened
                  cases hopened
                  exact .inl rfl
                · exact .inr ⟨path, hmem, rfl, hopened⟩

theorem openFiles_eq_error {reason : Disruption} (h : openFiles store files = .error reason) :
    ∃ table path fault, (table, path) ∈ files ∧ store.content path = .error fault := by
  induction files with
  | nil => cases h
  | cons entry files ih =>
      obtain ⟨table', path'⟩ := entry
      rw [openFiles] at h
      cases hcontent : store.content path' with
      | error fault => exact ⟨table', path', fault, List.mem_cons_self, hcontent⟩
      | ok content' =>
          cases hrest : openFiles store files with
          | ok rest => rw [hcontent, hrest] at h; cases h
          | error reason' =>
              rw [hcontent, hrest] at h
              cases h
              obtain ⟨table, path, fault, hmem, hpath⟩ := ih hrest
              exact ⟨table, path, fault, List.mem_cons_of_mem _ hmem, hpath⟩

/-- The files in what is sent. -/
def Payload.parts : Payload → Entries (String × Content)
  | .files parts => parts
  | .nothing | .whole _ | .streamed _ | .cutOff _ => []

end Http

/-! ## Reading with tables -/

namespace Connection

theorem statementRequest_of_uri {address : String} (h : c.uri = .ok address) (s : Sql.Statement)
    (parameters : List (String × Value)) (inAddress : Bool) (excluded : List String) :
    ∃ r, c.statementRequest s parameters inAddress excluded = .ok r := by
  rw [statementRequest, Connection.url, h]
  exact ⟨_, rfl⟩

/-- Two requests are for one statement, with the same headers and credentials. -/
structure SameHead (r r' : Request) : Prop where
  sql : r'.sql = r.sql
  headers : r'.headers = r.headers
  auth : r'.auth = r.auth

theorem SameHead.trans {r r' r'' : Request} (h : SameHead r r') (h' : SameHead r' r'') :
    SameHead r r'' :=
  ⟨h'.sql.trans h.sql, h'.headers.trans h.headers, h'.auth.trans h.auth⟩

/-- A file is opened for any request as for another one, and leaves its head as it is. -/
theorem openSink_congr {r r' : Request} (r₀ : Request) (h : c.openSink r file = .ok (c', r')) :
    SameHead r r' ∧ ∃ r₀', c.openSink r₀ file = .ok (c', r₀') ∧ SameHead r₀' r₀ := by
  cases file with
  | none =>
      cases h
      exact ⟨⟨rfl, rfl, rfl⟩, r₀, rfl, rfl, rfl, rfl⟩
  | some file =>
      simp only [openSink] at h ⊢
      cases hplace : c.store.writablePlace file.file with
      | error fault => rw [hplace] at h; cases h
      | ok place =>
          rw [hplace] at h
          cases h
          exact ⟨⟨rfl, rfl, rfl⟩, _, rfl, rfl, rfl, rfl⟩

/-- Where reading with tables makes a request, so does reading with other ones, with the same
head. -/
theorem reading_with_tables {sql bindings : Value} {r : Request} (tables' : List ExternalTable)
    (h : c.reading sql bindings tables file = .ok (c', r)) :
    ∃ r', c.reading sql bindings tables' file = .ok (c', r') ∧ SameHead r' r := by
  obtain ⟨s, hs, h⟩ := ok_of_bind h
  obtain ⟨⟨c₁, r₁, s₁⟩, hread, h⟩ := ok_of_bind h
  cases h
  obtain ⟨r₂, hr₂, hread⟩ := ok_of_bind hread
  obtain ⟨⟨c₃, r₃⟩, hopened, hread⟩ := ok_of_bind hread
  cases hread
  obtain ⟨url, hurl, hr₂_eq⟩ := statementRequest_eq_ok hr₂
  obtain ⟨address, haddress, -⟩ := ok_of_bind hurl
  obtain ⟨r₂', hr₂'⟩ := statementRequest_of_uri haddress (statementFor s file)
    (("readonly", .int 2) :: ExternalTable.parameters tables') (!tables'.isEmpty)
    (if file.isSome then ["extremes"] else [])
  obtain ⟨_, _, hr₂'_eq⟩ := statementRequest_eq_ok hr₂'
  have hhead : SameHead (r₂'.attachFiles (ExternalTable.files tables'))
      (r₂.attachFiles (ExternalTable.files tables)) := by
    rw [hr₂_eq, hr₂'_eq]
    exact ⟨rfl, rfl, rfl⟩
  obtain ⟨hopening, r₃', hopened', hopening'⟩ :=
    openSink_congr (r₂'.attachFiles (ExternalTable.files tables')) hopened
  have hhead' : SameHead r₃' r₃ := hopening'.trans (hhead.trans hopening)
  refine ⟨{ r₃' with progress := c'.listener.map fun _ => .report }, ?_, hhead'.sql, hhead'.headers,
    hhead'.auth⟩
  simp only [reading, hs, ok_bind, readRequest, hr₂', hopened']
  rfl

end Connection

namespace Sending

/-- Reading with tables, at once or through the queue. -/
def selecting (later : Bool) (tables : List ExternalTable) (file : Option ResultFile) : Sending :=
  if later then selectLater tables file else select tables file

section Selecting

variable (later : Bool)

theorem request_selecting (c : Connection) (sql bindings : Value) :
    (selecting later tables file).request c sql bindings = c.reading sql bindings tables file := by
  cases later <;> rfl

@[simp] theorem tables_selecting : (selecting later tables file).tables = tables := by
  cases later <;> rfl

theorem file_selecting : (selecting later tables file).file = file := by
  cases later <;> rfl

theorem level_selecting : (selecting later tables file).level = 2 := by
  cases later <;> rfl

theorem inAddress_selecting : (selecting later tables file).inAddress = !tables.isEmpty := by
  cases later <;> rfl

/-- The files that go out with a request for reading are those of its tables, if all can be read. -/
theorem Makes.parts_selecting {s : Sql.Statement} {r : Request}
    (h : Makes (selecting later tables file) c s r) (store : Files.Store) (chunkSize : Int) :
    (∃ data, cargo store chunkSize r = .ok data
        ∧ openFiles store (Entries.putAll [] (ExternalTable.files tables)) = .ok data.read.1.parts)
      ∨ ∃ reason, cargo store chunkSize r = .error reason
        ∧ openFiles store (Entries.putAll [] (ExternalTable.files tables)) = .error reason := by
  cases htables : tables.isEmpty with
  | true =>
      obtain rfl := List.isEmpty_iff.mp htables
      have hupload : (selecting later [] file).upload = none := by cases later <;> rfl
      obtain ⟨data, hdata, htext⟩ := h.cargo_of_body hupload (by rw [inAddress_selecting]; rfl)
        store chunkSize
      refine .inl ⟨data, hdata, ?_⟩
      rcases htext with htext | htext <;> rw [htext] <;> rfl
  | false =>
      have haddress : (selecting later tables file).inAddress = true := by
        rw [inAddress_selecting, htables]
        rfl
      have hdata : cargo store chunkSize r
          = (openFiles store (Entries.putAll [] (ExternalTable.files tables))).map .files := by
        rw [h.cargo_of_address haddress]
        cases later <;> rfl
      rw [hdata]
      cases openFiles store (Entries.putAll [] (ExternalTable.files tables)) with
      | ok parts => exact .inl ⟨_, rfl, rfl⟩
      | error reason => exact .inr ⟨_, rfl, rfl⟩

end Selecting

/-! ## Files and parameters -/

/-- The parameters and the files of a message tell of every table what was attached last. -/
structure AsAttached (attachments : List Attachment) (store : Files.Store)
    (ps : List (String × String)) (parts : Entries (String × Content)) : Prop where
  /-- The tables with a file are those with both parameters. -/
  same : ∀ table, table ∈ parts.names ↔
    (∃ v, (table ++ "_structure", v) ∈ ps) ∧ ∃ v, (table ++ "_format", v) ∈ ps
  /-- No table has two files. -/
  once : parts.Distinct
  shipped : ∀ table name content, (table, name, content) ∈ parts ↔
    ∃ a ∈ last? attachments table, name = baseName a.file ∧ store.content a.file = .ok content
  structured : ∀ table v, (table ++ "_structure", v) ∈ ps ↔
    ∃ a ∈ last? attachments table, v = a.declaredColumns
  formatted : ∀ table v, (table ++ "_format", v) ∈ ps ↔
    ∃ a ∈ last? attachments table, v = a.declaredFormat

/-- The files that are to be sent are those of the last attachments. -/
theorem mem_files_iff (attachments : List Attachment) (table path : String) :
    (table, path) ∈ Entries.putAll [] (ExternalTable.files (attachments.map made))
      ↔ ∃ a ∈ last? attachments table, a.file = path := by
  rw [(Entries.distinct_putAll _).mem_iff, (ExternalTable.distinct_files _).find?_putAll,
    ExternalTable.find?_files]
  cases last? attachments table <;> simp [Entries.find?]

theorem asAttached_arriving {call : Sending} {store : Files.Store}
    {parts : Entries (String × Content)} (htables : call.tables = attachments.map made)
    (hsettings : ∀ name ∈ c.settings.extra.names, ¬Reserved name)
    (hparts : openFiles store
      (Entries.putAll [] (ExternalTable.files (attachments.map made))) = .ok parts) :
    AsAttached attachments store (call.arriving c text) parts := by
  obtain ⟨hnames, hmem⟩ := Http.openFiles_eq_ok hparts
  have hstructured (table v : String) : (table ++ "_structure", v) ∈ call.arriving c text
      ↔ ∃ a ∈ last? attachments table, v = a.declaredColumns := by
    rw [mem_arriving_of_reserved hsettings (reserved_structure table), htables,
      ExternalTable.find?_structure]
    cases last? attachments table <;> simp [Attachment.parameterText_columns, eq_comm]
  have hformatted (table v : String) : (table ++ "_format", v) ∈ call.arriving c text
      ↔ ∃ a ∈ last? attachments table, v = a.declaredFormat := by
    rw [mem_arriving_of_reserved hsettings (reserved_format table), htables,
      ExternalTable.find?_format]
    cases last? attachments table <;> simp [Attachment.parameterText_format, eq_comm]
  have hfile (table : String) : table ∈ parts.names ↔ ∃ a, a ∈ last? attachments table := by
    rw [hnames, Entries.names, List.mem_map]
    constructor
    · rintro ⟨⟨_, path⟩, hpath, rfl⟩
      obtain ⟨a, ha, -⟩ := (mem_files_iff attachments _ path).mp hpath
      exact ⟨a, ha⟩
    · rintro ⟨a, ha⟩
      exact ⟨(table, a.file), (mem_files_iff attachments table _).mpr ⟨a, ha, rfl⟩, rfl⟩
  refine ⟨fun table => ?_, ?_, fun table name content => ?_, hstructured, hformatted⟩
  · rw [hfile]
    constructor
    · rintro ⟨a, ha⟩
      exact ⟨⟨_, (hstructured table _).mpr ⟨a, ha, rfl⟩⟩, _, (hformatted table _).mpr ⟨a, ha, rfl⟩⟩
    · rintro ⟨⟨v, hv⟩, -⟩
      obtain ⟨a, ha, -⟩ := (hstructured table v).mp hv
      exact ⟨a, ha⟩
  · rw [Entries.Distinct, hnames]
    exact Entries.distinct_putAll _
  · rw [hmem]
    constructor
    · rintro ⟨path, hpath, rfl, hcontent⟩
      obtain ⟨a, ha, rfl⟩ := (mem_files_iff attachments table path).mp hpath
      exact ⟨a, ha, rfl, hcontent⟩
    · rintro ⟨a, ha, rfl, hcontent⟩
      exact ⟨a.file, (mem_files_iff attachments table _).mpr ⟨a, ha, rfl⟩, rfl, hcontent⟩

/-! ## Requests with tables -/

/-- Whenever a request is run, one message goes out. It tells of every table what was attached last.
Nothing goes out where one of the files cannot be read any more. -/
def ShipsAsAttached (attachments : List Attachment) (r : Request) (ps : List (String × String)) :
    Prop :=
  ∀ d d' r', Connection.Runs d r d' r' →
    (∃ m, d'.queue.session.sent = d.queue.session.sent ++ [m]
        ∧ m.url = r.url ∧ m.headers = r.headers ∧ m.auth = r.auth
        ∧ AsAttached attachments d.store ps m.payload.parts)
      ∨ d'.queue.session.sent = d.queue.session.sent
        ∧ ∃ table, ∃ a ∈ last? attachments table, ∃ fault, d.store.content a.file = .error fault

/-- A request that reads with tables declares them as it ships them. But for the statement, which
travels in the address then, all else is as it is without tables: the settings, the level of
read-only access, and the credentials. -/
def DeclaresAsShipped (attachments : List Attachment) (later : Bool) (file : Option ResultFile)
    (c c' : Connection) (sql bindings : Value) (r : Request) : Prop :=
  ∃ address query, c.uri = .ok address ∧ r.url = address ++ "?" ++ query
    ∧ ShipsAsAttached attachments r (parametersOf query)
    ∧ Respects c (selecting later (attachments.map made) file) (parametersOf query)
    ∧ (attachments ≠ [] → ∀ v, ("query", v) ∈ parametersOf query ↔ r.sql = some v)
    ∧ ∃ r₀ query₀, (selecting later [] file).request c sql bindings = .ok (c', r₀)
        ∧ r₀.url = address ++ "?" ++ query₀ ∧ Connection.SameHead r₀ r
        ∧ ∀ name v, ¬Reserved name → name ≠ "query" →
            ((name, v) ∈ parametersOf query ↔ (name, v) ∈ parametersOf query₀)

section

variable {later : Bool} {sql bindings : Value} {s : Sql.Statement} {r : Request}

theorem Makes.shipsAsAttached (hmakes : Makes (selecting later (attachments.map made) file) c s r)
    (hsettings : ∀ name ∈ c.settings.extra.names, ¬Reserved name) :
    ShipsAsAttached attachments r
      ((selecting later (attachments.map made) file).arriving c s.toSql) := by
  intro d d' r' hruns
  have hcargo : cargo d.store d.queue.config.chunkSize r.markExecuting
      = cargo d.store d.queue.config.chunkSize r := rfl
  have hunchunked : r.isChunked = false := by
    rw [hmakes.chunked]
    cases later <;> rfl
  rw [hruns.sent, Queue.messages, hcargo]
  rcases hmakes.parts_selecting later d.store d.queue.config.chunkSize with
    ⟨data, hdata, hparts⟩ | ⟨reason, hdata, hfailed⟩
  · rw [hdata]
    refine .inl ⟨_, rfl, rfl, ?_, rfl, ?_⟩
    · simp only [Http.Call.sent, Request.carrying]
      rw [if_neg (by simp [show r.markExecuting.isChunked = false from hunchunked])]
      rfl
    · exact asAttached_arriving (tables_selecting later) hsettings hparts
  · rw [hdata]
    obtain ⟨table, path, fault, hpath, hfault⟩ := Http.openFiles_eq_error hfailed
    obtain ⟨a, ha, rfl⟩ := (mem_files_iff attachments table path).mp hpath
    exact .inr ⟨List.append_nil _, table, a, ha, fault, hfault⟩

/-- However tables are called, and however often one is attached, a request that reads with them
declares them as it ships them, unless settings are called like their parameters. -/
theorem tables_declared_as_shipped (hattached : attachAll [] attachments = .ok tables)
    (hsettings : ∀ name ∈ c.settings.extra.names, ¬Reserved name)
    (hmade : (selecting later tables file).request c sql bindings = .ok (c', r)) :
    DeclaresAsShipped attachments later file c c' sql bindings r := by
  obtain ⟨-, rfl⟩ := Attachment.attachAll_eq_ok_iff.mp hattached
  rw [List.nil_append] at hmade
  have hmade₀ := hmade
  rw [request_selecting] at hmade₀
  obtain ⟨r₀, hmade₀, hhead⟩ := Connection.reading_with_tables [] hmade₀
  rw [← request_selecting later] at hmade₀
  obtain ⟨⟨s, hmakes⟩, -⟩ := exists_makes hmade
  obtain ⟨⟨s₀, hmakes₀⟩, -⟩ := exists_makes hmade₀
  obtain ⟨address, haddress, hurl⟩ := hmakes.url_eq
  obtain ⟨address₀, haddress₀, hurl₀⟩ := hmakes₀.url_eq
  obtain rfl : address₀ = address := Except.ok.inj (haddress₀.symm.trans haddress)
  refine ⟨_, _, haddress, hurl, ?_, ?_, fun htables v => ?_, r₀, _, hmade₀, hurl₀, hhead,
    fun name v hreserved hquery => ?_⟩
  · rw [Http.parametersOf_queryString]
    exact hmakes.shipsAsAttached hsettings
  · rw [Http.parametersOf_queryString]
    exact respects_arriving c s.toSql _
  · have hin : (selecting later (attachments.map made) file).inAddress = true := by
      rw [inAddress_selecting]
      simpa using htables
    rw [Http.parametersOf_queryString, query_arriving_iff hin, hmakes.sql, Option.some.injEq]
    exact eq_comm
  · rw [Http.parametersOf_queryString, Http.parametersOf_queryString]
    exact mem_arriving_congr (by rw [level_selecting, level_selecting])
      (by rw [file_selecting, file_selecting]) hreserved hquery

end

/-- A table that is attached twice, and one whose name is that of a parameter of the first. -/
def attachedTwice : List Attachment :=
  let store : Files.Store :=
    { nodes := [(["old.csv"], .file 0 [.plain (Text.encode "1\n")]),
        (["new.csv"], .file 1 [.plain (Text.encode "2,two\n")])] }
  [⟨store, "old.csv", "ids", .text "id UInt8", .text "CSV"⟩,
    ⟨store, "old.csv", "ids_structure", .text "id UInt8", .text "CSV"⟩,
    ⟨store, "new.csv", "ids", .dict [(.text "id", .text "UInt64"), (.text "name", .text "String")],
      .text "CSV"⟩]

theorem tables_declared_as_shipped_twice :
    ∃ tables, attachAll [] attachedTwice = .ok tables
      ∧ (∀ name ∈ insistent.settings.extra.names, ¬Reserved name)
      ∧ ∃ c' r,
        (selecting true tables none).request insistent (.text "select 1") .null = .ok (c', r)
        ∧ DeclaresAsShipped attachedTwice true none insistent c' (.text "select 1") .null r := by
  have hattached : attachAll [] attachedTwice = .ok (attachedTwice.map made) := rfl
  have hsettings : ∀ name ∈ insistent.settings.extra.names, ¬Reserved name := by decide
  refine ⟨attachedTwice.map made, hattached, hsettings, ?_⟩
  cases hmade : (selecting true (attachedTwice.map made) none).request insistent (.text "select 1")
      .null with
  | error fault =>
      have hok : ((selecting true (attachedTwice.map made) none).request insistent
        (.text "select 1") .null).isOk = true := rfl
      rw [hmade] at hok
      cases hok
  | ok request =>
      exact ⟨request.1, request.2, rfl, tables_declared_as_shipped hattached hsettings hmade⟩

end Sending

end QueryClient
