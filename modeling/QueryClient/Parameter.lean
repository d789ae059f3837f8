import QueryClient.Value

/-!
# Parameters

What an operation that is called by name takes. Arguments are given by place or by name; those that
are left out have their defaults.
-/

namespace QueryClient

/-- A parameter; without a default it must be given. -/
structure Parameter where
  name : String
  default : Option Value := none

namespace Parameter

def required (name : String) : Parameter :=
  { name }

/-- A parameter that may be left out. -/
def optional (name : String) (default : Value) : Parameter :=
  { name, default := some default }

variable {α : Type}

/-- The arguments in the order of the parameters, when no name is unknown. -/
def placeKnown? (ofValue : Value → α) (named : List (String × α)) :
    List Parameter → List α → Option (List α)
  | [], [] => some []
  | [], _ :: _ => none
  | p :: parameters, a :: placed =>
    if named.any (·.1 == p.name) then none
    else (placeKnown? ofValue named parameters placed).map (a :: ·)
  | p :: parameters, [] => do
    let given := (named.find? (·.1 == p.name)).map (·.2)
    let a ← given <|> p.default.map ofValue
    return a :: (← placeKnown? ofValue named parameters [])

/-- The arguments in the order of the parameters; none when they do not fit. -/
def place? (ofValue : Value → α) (parameters : List Parameter) (named : List (String × α))
    (placed : List α) : Option (List α) :=
  if named.all fun (name, _) => parameters.any (·.name == name) then
    placeKnown? ofValue named parameters placed
  else none

/-- The argument of a parameter by its place. -/
def nth (vs : List Value) (n : Nat) : Value :=
  vs[n]?.getD .null

end Parameter

/-- What an operation that is called by name answers. -/
inductive CallAnswer where
  /-- The object that it was called on. -/
  | itself
  | value (v : Value)
  | entries (es : List (String × Value))

end QueryClient
