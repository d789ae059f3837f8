import QueryClient.Query.Basic

/-!
# The values of a query

The values that a query binds, in the order of its placeholders: joins, conditions, conditions on
groups, and then the queries it is united with. Raw SQL stands in the text and is not bound.
-/

namespace QueryClient

/-- The values that are bound, without raw SQL. -/
def boundValues (values : List Value) : List Value :=
  values.filter fun v => !v.isRaw

mutual

def Condition.bindings : Condition → Except Fault (List Value)
  | .sql _ _ values => .ok values
  | .compare _ _ _ value => .ok (boundValues [value])
  | .among _ _ values _ => .ok (boundValues values)
  | .amongRows _ _ source _ => source.bindings
  | .isNull .. => .ok []
  | .between _ _ low high _ => .ok [low, high]
  | .datePart _ _ _ _ value => .ok (boundValues [value])
  | .group _ members => members.bindings
  | .compareRow _ _ _ source => source.bindings
  | .existence _ source _ => source.bindings
  | .compareColumns .. => .ok []

def Group.bindings : Group → Except Fault (List Value)
  | .query q => q.bindings
  | .join j => j.bindings

/-- Values of an inner query. -/
def Source.bindings : Source → Except Fault (List Value)
  | .own q => q.bindings
  | .shared _ => .error .endless
  | .other _ => .error .lacksMember

def Join.bindings : Join → Except Fault (List Value)
  | ⟨_, _, conditions⟩ => bindingsOfConditions conditions

/-- Values of a united query. -/
def Union.bindings : Union → Except Fault (List Value)
  | ⟨source, _⟩ => source.bindings

def Query.bindings : Query → Except Fault (List Value)
  | ⟨_, joins, conditions, havings, unions⟩ => do
    let onJoins ← bindingsOfJoins joins
    let onRows ← bindingsOfConditions conditions
    let onGroups ← bindingsOfConditions havings
    let onUnions ← bindingsOfUnions unions
    return onJoins ++ onRows ++ onGroups ++ onUnions

/-- Values of conditions, one after the other. -/
def bindingsOfConditions : List Condition → Except Fault (List Value)
  | [] => .ok []
  | condition :: rest => do
    let first ← condition.bindings
    return first ++ (← bindingsOfConditions rest)

/-- Values of joins, one after the other. -/
def bindingsOfJoins : List Join → Except Fault (List Value)
  | [] => .ok []
  | join :: rest => do
    let first ← join.bindings
    return first ++ (← bindingsOfJoins rest)

/-- Values of united queries, one after the other. -/
def bindingsOfUnions : List Union → Except Fault (List Value)
  | [] => .ok []
  | union :: rest => do
    let first ← union.bindings
    return first ++ (← bindingsOfUnions rest)

end

end QueryClient
