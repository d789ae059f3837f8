import QueryClient.Query.Basic

/-!
# Resolving

Which shared queries stand in a query, and putting others in their places.
-/

namespace QueryClient

mutual

/-- A condition with shared queries replaced. -/
def Condition.resolve (find : Nat → Source) : Condition → Condition
  | .amongRows boolean column source negated =>
    .amongRows boolean column (source.resolve find) negated
  | .group boolean members => .group boolean (members.resolve find)
  | .compareRow boolean column operator source =>
    .compareRow boolean column operator (source.resolve find)
  | .existence boolean source negated => .existence boolean (source.resolve find) negated
  | condition => condition

/-- A group with shared queries replaced. -/
def Group.resolve (find : Nat → Source) : Group → Group
  | .query q => .query (q.resolve find)
  | .join j => .join (j.resolve find)

/-- A source with shared queries replaced. -/
def Source.resolve (find : Nat → Source) : Source → Source
  | .own q => .own (q.resolve find)
  | .shared id => find id
  | .other v => .other v

/-- A join with shared queries replaced. -/
def Join.resolve (find : Nat → Source) : Join → Join
  | ⟨kind, table, conditions⟩ => ⟨kind, table, resolveConditions find conditions⟩

/-- A united query with shared queries replaced. -/
def Union.resolve (find : Nat → Source) : Union → Union
  | ⟨source, all⟩ => ⟨source.resolve find, all⟩

/-- A query with shared queries replaced. -/
def Query.resolve (find : Nat → Source) : Query → Query
  | ⟨outline, joins, conditions, havings, unions⟩ =>
    ⟨outline, resolveJoins find joins, resolveConditions find conditions,
      resolveConditions find havings, resolveUnions find unions⟩

/-- Conditions with shared queries replaced. -/
def resolveConditions (find : Nat → Source) : List Condition → List Condition
  | [] => []
  | condition :: rest => condition.resolve find :: resolveConditions find rest

/-- Joins with shared queries replaced. -/
def resolveJoins (find : Nat → Source) : List Join → List Join
  | [] => []
  | join :: rest => join.resolve find :: resolveJoins find rest

/-- United queries with shared queries replaced. -/
def resolveUnions (find : Nat → Source) : List Union → List Union
  | [] => []
  | union :: rest => union.resolve find :: resolveUnions find rest

end

mutual

/-- The numbers of the shared queries in a condition, in their order; the definitions below give
those of the other parts of a query. -/
def Condition.references : Condition → List Nat
  | .group _ members => members.references
  | .amongRows _ _ source _ | .compareRow _ _ _ source | .existence _ source _ => source.references
  | .sql .. | .compare .. | .among .. | .isNull .. | .between .. | .datePart ..
  | .compareColumns .. => []

def Group.references : Group → List Nat
  | .query q => q.references
  | .join j => j.references

def Source.references : Source → List Nat
  | .own q => q.references
  | .shared id => [id]
  | .other _ => []

def Join.references : Join → List Nat
  | ⟨_, _, conditions⟩ => referencesOfConditions conditions

def Union.references : Union → List Nat
  | ⟨source, _⟩ => source.references

def Query.references : Query → List Nat
  | ⟨_, joins, conditions, havings, unions⟩ =>
    referencesOfJoins joins ++ referencesOfConditions conditions ++ referencesOfConditions havings
      ++ referencesOfUnions unions

def referencesOfConditions : List Condition → List Nat
  | [] => []
  | condition :: rest => condition.references ++ referencesOfConditions rest

def referencesOfJoins : List Join → List Nat
  | [] => []
  | join :: rest => join.references ++ referencesOfJoins rest

def referencesOfUnions : List Union → List Nat
  | [] => []
  | union :: rest => union.references ++ referencesOfUnions rest

end

end QueryClient
