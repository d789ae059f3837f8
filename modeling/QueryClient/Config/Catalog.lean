import QueryClient.Config.EnvironmentFile
import QueryClient.Config.Profile
import QueryClient.Json.Reader
import QueryClient.Text.Case
import QueryClient.Value.Equality

/-!
# Catalogs of connections

The configuration of a client: one connection that is described by the catalog itself, and any
number of named ones. It is put together from what the caller gives, the environment, and an
environment file; what comes earlier counts first, and dictionaries are merged.
-/

namespace QueryClient.Config

/-- The connections that a client can make. -/
structure Catalog where
  /-- The name of the connection that is made when none is asked for. -/
  connection : String := "default"
  /-- The connection that the catalog itself describes. -/
  own : Profile := {}
  /-- The connections that have names. -/
  named : Entries Profile := []

/-! ## Merging -/

mutual

/-- A value over another one: entries of dictionaries are merged. -/
def overlay (low : Value) : Value → Value
  | .dict high =>
    match low with
    | .dict low => .dict (overlayEntries low high)
    | _ => .dict high
  | high => high

/-- Entries over others. -/
def overlayEntries (low : List (Value × Value)) :
    List (Value × Value) → List (Value × Value)
  | [] => low
  | (k, v) :: rest =>
    let before := ((low.find? fun e => Value.same k e.1).map (·.2)).getD .null
    overlayEntries (Value.setEntry k (overlay before v) low) rest

end

/-- Fields over others. -/
def overlayFields (low : Entries Value) (high : Entries Value) : Entries Value :=
  high.foldl (fun fields (name, v) =>
    fields.put name (overlay ((fields.find? name).getD .null) v)) low

namespace Catalog

/-! ## Fields -/

def readNamed : List (Value × Value) → Except (List (String × String)) (Entries Profile)
  | [] => .ok []
  | (k, v) :: rest =>
    let profile : Except (List (String × String)) (String × Profile) :=
      match readText k, v with
      | .error m, _ => .error [m.at (k.display ++ ".[key]")]
      | .ok name, .dict entries =>
        match readEntries entries with
        | .error misfits => .error (below name misfits)
        | .ok given =>
          match readRecord Profile.fields given {} with
          | .ok profile => .ok (name, profile)
          | .error misfits => .error (below name misfits)
      | .ok name, _ => .error [(name, "model_type")]
    match profile, readNamed rest with
    | .ok (name, profile), .ok rest => .ok ((name, profile) :: rest)
    | .error misfits, .ok _ => .error misfits
    | .ok _, .error misfits => .error misfits
    | .error misfits, .error more => .error (misfits ++ more)

def namedField : Field Catalog where
  name := "connections"
  put c v :=
    match v with
    | .dict entries =>
      match readNamed entries with
      | .ok named => .ok { c with named := Entries.putAll [] named }
      | .error misfits => .error (below "connections" misfits)
    | _ => .error [Misfit.notDictionary.at "connections"]

def fields : List (Field Catalog) :=
  .of "connection" readText (fun c connection => { c with connection })
  :: Profile.addressFields.map (fun f =>
    { name := f.name, put := fun c v => (f.put c.own v).map fun own => { c with own } })
  ++ [namedField]

/-! ## Sources -/

/-- What the names of variables begin with. -/
def variableStart : String :=
  "CH_"

/-- The value of the variable for a field; names are compared in any case, and the last one
counts. -/
def variableValue (source : Entries String) (field : String) : Option String :=
  let wanted := Text.lower (variableStart ++ field)
  ((List.reverse source).find? fun (name, _) => Text.lower name == wanted).map (·.2)

/-- The fields that variables set. The named connections are given in JSON, where null says
nothing. -/
def variableFields (source : Entries String) : List (Field Catalog) →
    Except Fault (Entries Value)
  | [] => .ok []
  | field :: rest =>
    match variableValue source field.name with
    | none => variableFields source rest
    | some s =>
      if field.name == namedField.name then
        match Json.read? s with
        | some .null => variableFields source rest
        | some d => (variableFields source rest).map ((field.name, d.toValue) :: ·)
        | none => .error .unreadableSource
      else (variableFields source rest).map ((field.name, .text s) :: ·)

/-- A catalog from what the caller gives, the environment, and the text of an environment file. -/
def ofSources (given : Entries Value) (environment : Entries String) (file : Option String) :
    Except Fault Catalog := do
  let high ← variableFields environment fields
  let low ← variableFields (EnvironmentFile.read environment (file.getD "")) fields
  orInvalid (readRecord fields (overlayFields (overlayFields low high) given) {})

/-! ## Connections -/

/-- The profile of a connection by name; without a name, of the one that is made by default. -/
def resolve (c : Catalog) (name : Option String) : Except Fault Profile :=
  let name := if (name.getD "").isEmpty then c.connection else name.getD ""
  match c.named.find? name with
  | some profile => .ok profile
  | none =>
    if name == c.connection then .ok c.own
    else .error (.unknownConnection name (c.connection :: c.named.names))

end Catalog

end QueryClient.Config
