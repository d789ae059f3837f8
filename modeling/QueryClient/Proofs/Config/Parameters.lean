import QueryClient.Config.Settings

/-!
# The parameters of one request

The parameters of a request are looked up name by name: what is excluded or must not be sent is not
there, and what is the request's own comes before what the settings say.
-/

namespace QueryClient.Config.Settings

/-! ## Parameters of settings -/

/-- The options that every request has, before the further ones. -/
def typedParameters (s : Settings) : Entries Value :=
  [TypedOption.database, .extremes, .readonly, .maxExecutionTime, .httpCompression, .https].map
      (fun o => (o.name, s.option o))
    ++ match s.sessionId with
      | some id => if id.isEmpty then [] else [("session_id", .text id)]
      | none => []

theorem parameters_eq (s : Settings) :
    s.parameters = (((s.typedParameters.putAll s.extra).filter fun (_, v) => !v.isNull).map
      fun (k, v) => (k, parameterValue v)) := rfl

theorem names_typedParameters (s : Settings) :
    Entries.names s.typedParameters
      = ["database", "extremes", "readonly", "max_execution_time", "enable_http_compression", "https"]
        ∨ Entries.names s.typedParameters
      = ["database", "extremes", "readonly", "max_execution_time", "enable_http_compression", "https",
        "session_id"] := by
  unfold typedParameters
  cases s.sessionId with
  | none => exact .inl rfl
  | some id =>
      cases hid : id.isEmpty
      · exact .inr (by simp only [hid]; rfl)
      · exact .inl (by simp only [hid]; rfl)

theorem distinct_typedParameters (s : Settings) : s.typedParameters.Distinct := by
  unfold Entries.Distinct
  rcases s.names_typedParameters with h | h <;> rw [h] <;> decide

theorem distinct_parameters (s : Settings) : s.parameters.Distinct :=
  ((s.distinct_typedParameters.putAll s.extra).sublist List.filter_sublist).map parameterValue

/-- A name without a type of its own is a parameter only if it was set. -/
theorem not_mem_names_parameters {s : Settings} {name : String}
    (htyped : TypedOption.ofName? name = none) (h : s.isSet name = false) :
    name ∉ Entries.names s.parameters := by
  have hextra : name ∉ Entries.names s.extra := by
    rw [← Entries.find?_eq_none_iff]
    simpa only [isSet, htyped, Entries.holds, Option.isSome_eq_false_iff, Option.isNone_iff_eq_none]
      using h
  have hbase : name ∉ Entries.names s.typedParameters := by
    intro hmem
    have hall : ∀ n ∈ Entries.names s.typedParameters, n ∈ TypedOption.all.map TypedOption.name := by
      rcases s.names_typedParameters with hnames | hnames <;> rw [hnames] <;> decide
    obtain ⟨o, ho, heq⟩ := List.mem_map.mp (hall name hmem)
    have hne := List.find?_eq_none.mp htyped o ho
    exact hne (beq_iff_eq.mpr heq)
  rw [parameters_eq]
  intro hmem
  simp only [Entries.names, List.map_map, List.mem_map, List.mem_filter] at hmem
  obtain ⟨e, ⟨he, -⟩, heq⟩ := hmem
  have : name ∈ Entries.names (s.typedParameters.putAll s.extra) :=
    List.mem_map.mpr ⟨e, he, heq⟩
  exact (Entries.mem_names_putAll.mp this).elim hextra hbase

/-! ## Parameters of a request -/

/-- What must not be sent. -/
def stripped (s : Settings) (excluded : List String) : List String :=
  clientOnly ++ excluded ++ (if s.readonlyUser then strippedForReadonlyUser else [])

variable {own : Entries Value}

theorem distinct_effectiveParameters (s : Settings) (own : List (String × Value))
    (excluded : List String) : (s.effectiveParameters own excluded).Distinct :=
  (s.distinct_parameters.putAll _).removeAll _

theorem find?_effectiveParameters (s : Settings) (hown : own.Distinct) (excluded : List String)
    (name : String) :
    Entries.find? name (s.effectiveParameters own excluded)
      = if name ∈ s.stripped excluded then none
        else ((own.find? name).map parameterValue).or (s.parameters.find? name) := by
  rw [effectiveParameters, Entries.find?_removeAll, (hown.map parameterValue).find?_putAll,
    Entries.find?_map]
  rfl

theorem not_mem_effectiveParameters {s : Settings} {excluded : List String} {name : String}
    (h : name ∈ s.stripped excluded) (hown : own.Distinct) (v : Value) :
    (name, v) ∉ s.effectiveParameters own excluded := by
  rw [(s.distinct_effectiveParameters own excluded).mem_iff, s.find?_effectiveParameters hown,
    if_pos h]
  exact nofun

/-- What is the request's own is sent, unless it must not be. -/
theorem mem_effectiveParameters_iff {s : Settings} {excluded : List String} {name : String}
    {v : Value} (h : name ∉ s.stripped excluded) (hown : own.Distinct)
    (hv : own.find? name = some v) {w : Value} :
    (name, w) ∈ s.effectiveParameters own excluded ↔ w = parameterValue v := by
  rw [(s.distinct_effectiveParameters own excluded).mem_iff, s.find?_effectiveParameters hown,
    if_neg h, hv]
  simp [eq_comm]

end QueryClient.Config.Settings
