import QueryClient.Proofs.Config.Parameters
import QueryClient.Proofs.Connection.Sending
import QueryClient.Proofs.Files.AttachedTables
import QueryClient.Proofs.Http.QueryString

/-!
# Parameters on the wire

What a server reads from the address of a request. Whatever the settings are and however external
tables are called, the level of read-only access is that of the way in which the statement is sent,
and nothing is sent that must not be.
-/

namespace QueryClient

open Config (Settings)
open Files (ExternalTable ResultFile)
open Files.ExternalTable (Reserved reserved_of_mem_names)

namespace Config.Settings

theorem mem_of_mem_stripped {s : Settings} {file : Option ResultFile} {name : String}
    (h : name ∈ s.stripped (Connection.excludedFor file)) :
    name ∈ ["https", "extremes", "readonly", "enable_http_compression", "max_execution_time"] := by
  have hexcluded : ∀ n ∈ Connection.excludedFor file, n = "extremes" := by
    unfold Connection.excludedFor
    cases file.isSome <;> decide
  have hrestricted : ∀ n ∈ (if s.readonlyUser then strippedForReadonlyUser else []),
      n ∈ strippedForReadonlyUser := by
    cases s.readonlyUser <;> decide
  rw [stripped, List.mem_append, List.mem_append] at h
  rcases h with (h | h) | h
  · rw [List.mem_singleton.mp h]
    decide
  · rw [hexcluded name h]
    decide
  · exact List.mem_cons_of_mem _ (hrestricted name h)

end Config.Settings

namespace Connection

variable (c : Connection)

theorem distinct_authParameters : Entries.Distinct c.authParameters := by
  unfold authParameters Entries.Distinct
  cases c.authMethod <;> simp [Entries.names]

theorem find?_ownParameters (parameters : List (String × Value)) (name : String) :
    (c.ownParameters parameters).find? name
      = (Entries.find? name c.authParameters).or (Entries.find? name (Entries.putAll [] parameters)) :=
  c.distinct_authParameters.find?_putAll name _

theorem distinct_ownParameters (parameters : List (String × Value)) :
    (c.ownParameters parameters).Distinct :=
  (Entries.distinct_putAll parameters).putAll c.authParameters

theorem find?_authParameters_of_ne {name : String} (huser : name ≠ "user")
    (hpassword : name ≠ "password") : Entries.find? name c.authParameters = none := by
  unfold authParameters
  cases c.authMethod <;> simp [Entries.find?, Ne.symm huser, Ne.symm hpassword]

end Connection

namespace Sending

variable (c : Connection) (text : String) (call : Sending)

/-! ## Parameters of a request's own -/

theorem distinct_own : (call.own c text).Distinct := by
  unfold own Connection.parametersFor
  split
  · exact c.distinct_ownParameters _
  · split
    · exact (c.distinct_ownParameters _).put _ _
    · exact c.distinct_ownParameters _

theorem find?_parametersFor (parameters : List (String × Value)) (inAddress : Bool) {name : String}
    (h : name ≠ "query") :
    (c.parametersFor text parameters inAddress).find? name
      = (c.ownParameters parameters).find? name := by
  unfold Connection.parametersFor
  split
  · exact Entries.find?_put_of_ne h _ _
  · rfl

/-- Tables have no parameters but those that are reserved to them. -/
theorem find?_putAll_tables {name : String} (h : ¬Reserved name) (v : Value) :
    Entries.find? name (Entries.putAll [] (("readonly", v) :: ExternalTable.parameters call.tables))
      = Entries.find? name [("readonly", v)] :=
  Entries.find?_putAll_of_not_mem (mt (reserved_of_mem_names call.tables) h) [("readonly", v)]

theorem find?_own_readonly : (call.own c text).find? "readonly" = some (.int call.level) := by
  have hauth := c.find?_authParameters_of_ne (show "readonly" ≠ "user" by decide) (by decide)
  unfold own
  split
  · rename_i hupload
    rw [c.find?_ownParameters, hauth]
    cases call with
    | streamWrite s => rfl
    | select | selectLater | write | streamRead => cases hupload
  · rw [find?_parametersFor c text _ _ (by decide), c.find?_ownParameters, hauth,
      find?_putAll_tables call (by decide)]
    rfl

theorem find?_own_query :
    (call.own c text).find? "query" = if call.inAddress then some (.text text) else none := by
  have hauth := c.find?_authParameters_of_ne (show "query" ≠ "user" by decide) (by decide)
  unfold own
  split
  · rename_i hupload
    rw [c.find?_ownParameters, hauth, inAddress, hupload]
    rfl
  · unfold Connection.parametersFor
    split
    · exact Entries.find?_put_self _ _ _
    · rw [c.find?_ownParameters, hauth, find?_putAll_tables call (by decide)]
      rfl

theorem find?_own_of_credentials {name : String} {v : Value} (h : name ≠ "query")
    (hv : Entries.find? name c.authParameters = some v) : (call.own c text).find? name = some v := by
  unfold own
  split
  · rw [c.find?_ownParameters, hv]
    rfl
  · rw [find?_parametersFor c text _ _ h, c.find?_ownParameters, hv]
    rfl

/-! ## What arrives -/

/-- The parameters that arrive are those of the way in which the statement is sent and of the user
who sends it. -/
structure Respects (ps : List (String × String)) : Prop where
  https : ∀ v, ("https", v) ∉ ps
  restricted : c.settings.readonlyUser = true →
    ∀ name ∈ ["extremes", "readonly", "enable_http_compression", "max_execution_time"],
      ∀ v, (name, v) ∉ ps
  level : c.settings.readonlyUser = false →
    ∀ v, ("readonly", v) ∈ ps ↔ v = if call.reads then "2" else "0"
  extremes : call.file.isSome = true → ∀ v, ("extremes", v) ∉ ps
  user : c.authMethod = .queryString →
    ∀ v, ("user", v) ∈ ps ↔ v = Http.parameterText (Settings.parameterValue c.username)
  password : c.authMethod = .queryString →
    ∀ v, ("password", v) ∈ ps
      ↔ v = Http.parameterText (Settings.parameterValue (Http.Request.passwordOr c.password))

variable {c text call} {name : String}

theorem not_mem_arriving {excluded : List String} (h : name ∈ c.settings.stripped excluded)
    (v : String) :
    (name, v) ∉ (c.settings.effectiveParameters (call.own c text) excluded).map
      fun (name, v) => (name, Http.parameterText v) := by
  intro hmem
  obtain ⟨⟨_, w⟩, hw, heq⟩ := List.mem_map.mp hmem
  cases heq
  exact Settings.not_mem_effectiveParameters h (distinct_own c text call) w hw

theorem mem_arriving_iff {excluded : List String} {v : Value}
    (h : name ∉ c.settings.stripped excluded) (hv : (call.own c text).find? name = some v)
    {s : String} :
    (name, s) ∈ (c.settings.effectiveParameters (call.own c text) excluded).map
        (fun (name, v) => (name, Http.parameterText v))
      ↔ s = Http.parameterText (Settings.parameterValue v) := by
  have hmem (w : Value) := Settings.mem_effectiveParameters_iff h (distinct_own c text call) hv (w := w)
  constructor
  · intro hs
    obtain ⟨⟨_, w⟩, hw, heq⟩ := List.mem_map.mp hs
    cases heq
    rw [(hmem w).mp hw]
  · rintro rfl
    exact List.mem_map.mpr ⟨(name, Settings.parameterValue v), (hmem _).mpr rfl, rfl⟩

theorem respects_arriving (c : Connection) (text : String) (call : Sending) :
    Respects c call ((c.settings.effectiveParameters (call.own c text)
      (Connection.excludedFor call.file)).map fun (name, v) => (name, Http.parameterText v)) := by
  have hstripped {name : String} (h : name ∉ ["https", "extremes", "readonly",
      "enable_http_compression", "max_execution_time"]) :
      name ∉ c.settings.stripped (Connection.excludedFor call.file) :=
    mt Settings.mem_of_mem_stripped h
  constructor
  · exact not_mem_arriving (by simp [Settings.stripped, Settings.clientOnly])
  · intro huser name hname
    exact not_mem_arriving (by
      simpa [Settings.stripped, huser] using .inr (.inr hname))
  · intro huser v
    have hkept : "readonly" ∉ c.settings.stripped (Connection.excludedFor call.file) := by
      unfold Settings.stripped Connection.excludedFor
      rw [huser]
      cases call.file.isSome <;> decide
    have htext : Http.parameterText (Settings.parameterValue (.int call.level))
        = if call.reads then "2" else "0" := by
      rw [level]
      cases call.reads <;> exact (Http.parameterText_int _).trans rfl
    rw [mem_arriving_iff hkept (find?_own_readonly c text call), htext]
  · intro hfile
    exact not_mem_arriving (by simp [Settings.stripped, Connection.excludedFor, hfile])
  · intro hauth v
    exact mem_arriving_iff (hstripped (by decide))
      (find?_own_of_credentials c text call (by decide)
        (by simp [Connection.authParameters, hauth, Entries.find?]))
  · intro hauth v
    exact mem_arriving_iff (hstripped (by decide))
      (find?_own_of_credentials c text call (by decide)
        (by simp [Connection.authParameters, hauth, Entries.find?]))

/-- The address of every request is that of the server with a query string behind it, and what
arrives with it respects the way and the user. The settings stay as they are. -/
theorem request_parameters_respect {call : Sending} {c c' : Connection} {sql bindings : Value}
    {r : Http.Request} (h : call.request c sql bindings = .ok (c', r)) :
    (∃ address query, c.uri = .ok address ∧ r.url = address ++ "?" ++ query
        ∧ Respects c call (Http.parametersOf query))
      ∧ (call.after c sql bindings).settings = c.settings := by
  refine ⟨?_, settings_after c sql bindings call⟩
  obtain ⟨⟨s, hmakes⟩, -⟩ := exists_makes h
  obtain ⟨address, haddress, hurl⟩ := ok_of_bind hmakes.url
  refine ⟨address, _, haddress, (Except.ok.inj hurl).symm, ?_⟩
  rw [Http.parametersOf_queryString]
  exact respects_arriving c s.toSql call

/-- A connection whose user is called like a parameter and whose settings ask for what is not to be
sent. -/
def insistent : Connection where
  username := .text "u&readonly=0"
  password := .text "p#"
  authMethod := .queryString
  settings := { readonly := 0, extremes := true, extra := [("user", .text "root")] }

def readingAll : Sending :=
  select [⟨"ids.csv", "readonly", .text "id UInt8", .text "CSV"⟩] (some ⟨"out.csv", "CSV", true⟩)

theorem request_parameters_respect_insistent :
    ∃ c' r, readingAll.request insistent (.text "select 1") .null = .ok (c', r)
      ∧ (∃ address query, insistent.uri = .ok address ∧ r.url = address ++ "?" ++ query
          ∧ Respects insistent readingAll (Http.parametersOf query))
      ∧ (readingAll.after insistent (.text "select 1") .null).settings = insistent.settings := by
  cases hmade : readingAll.request insistent (.text "select 1") .null with
  | error fault =>
      have hok : (readingAll.request insistent (.text "select 1") .null).isOk = true := rfl
      rw [hmade] at hok
      cases hok
  | ok made => exact ⟨made.1, made.2, rfl, request_parameters_respect hmade⟩

end Sending

end QueryClient
