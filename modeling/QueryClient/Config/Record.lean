import QueryClient.Config.Coercion

/-!
# Reading records

A configuration is read field by field. Fields that are not given keep what they have, unknown ones
are left out, and the misfits of all fields are told together in the order of the fields.
-/

namespace QueryClient.Config

/-- A field of a record: its name, and how a value is put into it. -/
structure Field (ρ : Type) where
  name : String
  put : ρ → Value → Except (List (String × String)) ρ

/-- A field whose values are read by themselves. -/
def Field.of {ρ α : Type} (name : String) (read : Value → Except Misfit α) (set : ρ → α → ρ) :
    Field ρ where
  name := name
  put r v :=
    match read v with
    | .ok a => .ok (set r a)
    | .error m => .error [m.at name]

def Field.dictionary {ρ : Type} (name : String) (set : ρ → Entries Value → ρ) : Field ρ where
  name := name
  put r v :=
    match v with
    | .dict entries =>
      match readEntries entries with
      | .ok entries => .ok (set r entries)
      | .error misfits => .error (below name misfits)
    | _ => .error [Misfit.notDictionary.at name]

/-- Read fields one after the other; the misfits are collected. -/
def readFields {ρ : Type} (given : Entries Value) :
    List (Field ρ) → ρ → List (String × String) → ρ × List (String × String)
  | [], r, misfits => (r, misfits)
  | field :: rest, r, misfits =>
    match given.find? field.name with
    | none => readFields given rest r misfits
    | some v =>
      match field.put r v with
      | .ok r => readFields given rest r misfits
      | .error more => readFields given rest r (misfits ++ more)

/-- Read a record from what is given over what it has. -/
def readRecord {ρ : Type} (fields : List (Field ρ)) (given : Entries Value) (r : ρ) :
    Except (List (String × String)) ρ :=
  match readFields given fields r [] with
  | (r, []) => .ok r
  | (_, misfits) => .error misfits

/-- The failure for misfits. -/
def orInvalid {α : Type} (r : Except (List (String × String)) α) : Except Fault α :=
  r.mapError .invalidFields

end QueryClient.Config
