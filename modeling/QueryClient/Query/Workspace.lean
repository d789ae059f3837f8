import QueryClient.Query.Call

/-!
# Workspaces

Several queries that are built side by side and may stand inside each other: a query used by
another one is kept by its number, so that what is added to it later shows in the other as well. A
copy takes the queries that it refers to along, and so it is cut loose from all that were there.
-/

namespace QueryClient

/-- Queries by number, names for some of them, and the one that is being built. -/
structure Workspace where
  grammar : Grammar := {}
  queries : List Query := [{}]
  names : List (String × Nat) := [("main", 0)]
  current : Nat := 0

namespace Workspace

/-- The query of a number, with those it uses put in up to a depth. -/
def source (queries : List Query) : Nat → Nat → Source
  | 0, id => .shared id
  | depth + 1, id =>
    match queries[id]? with
    | some q => .own (q.resolve (source queries depth))
    | none => .shared id

def idOf? (w : Workspace) (name : String) : Option Nat :=
  w.names.lookup name

/-- The query of a number, with those it uses put in. Chains of different queries are no longer than
there are queries; what is left after that many steps is a query that stands inside itself. -/
def find (w : Workspace) : Nat → Source :=
  source w.queries w.queries.length

/-- A query as it stands, with those it uses put in. -/
def snapshot (w : Workspace) (q : Query) : Query :=
  q.resolve w.find

/-- The query that is being built. -/
def query (w : Workspace) : Query :=
  (w.queries[w.current]?).getD {}

/-! ## Copies -/

/-- The queries that are met from one on, each where it is met first. -/
def visit (queries : List Query) : Nat → List Nat → Nat → List Nat
  | 0, met, _ => met
  | depth + 1, met, id =>
    if id ∈ met then met
    else match queries[id]? with
      | none => met
      | some q => q.references.foldl (visit queries depth) (met ++ [id])

/-- What a copy of a query takes along, itself in front. A chain of queries that were not met before
is no longer than there are queries. -/
def met (queries : List Query) (id : Nat) : List Nat :=
  visit queries queries.length [] id

/-- The number of the copy of a query, when the copies of what was met are numbered on. -/
def copyNumber (first : Nat) (met : List Nat) (id : Nat) : Nat :=
  if id ∈ met then first + met.idxOf id else id

/-- Copies of a query and of all that are met from it on. They refer to each other as the queries
do. -/
def copies (queries : List Query) (id : Nat) : List Query :=
  let met := met queries id
  met.map fun i => ((queries[i]?).getD {}).resolve fun id =>
    .shared (copyNumber queries.length met id)

/-! ## Steps -/

/-- Add queries, the first of them under a name. -/
def add (w : Workspace) (name : String) (added : List Query) : Workspace :=
  { w with queries := w.queries ++ added, names := (name, w.queries.length) :: w.names }

inductive Step where
  | clause (clause : Clause)
  /-- Keep a copy of the current query under a name. -/
  | clone (name : String)
  /-- Add an empty query under a name. -/
  | fresh (name : String)
  /-- Go on with the query of a name. -/
  | use (name : String)
  /-- Forget how to write a kind of condition. -/
  | disable (kind : ConditionKind)

/-- What a step answers: what was asked for, if anything, and a failure. -/
structure Reply where
  answer : Option Value := none
  fault : Option Fault := none

/-- What a clause asks of the query, when it does. -/
def ask (w : Workspace) : Clause → Option (Except Fault Value)
  | ⟨.inspect terminal, operands, _⟩ => some do
    terminal.answer w.grammar (w.snapshot w.query) (← argumentsWith w.grammar w.find operands)
  | _ => none

/-- Run a clause on the current query. -/
def run (w : Workspace) (clause : Clause) : Workspace × Reply :=
  match w.ask clause with
  | some (.ok v) => (w, { answer := some v })
  | some (.error fault) => (w, { fault := some fault })
  | none =>
    let outcome := clause.onQuery w.grammar w.find w.query
    ({ w with queries := w.queries.set w.current outcome.state }, { fault := outcome.fault })

def step (w : Workspace) : Step → Workspace × Reply
  | .clause clause => w.run clause
  | .clone name => (w.add name (copies w.queries w.current), {})
  | .fresh name => (w.add name [{}], {})
  | .use name =>
    match w.idOf? name with
    | some id => ({ w with current := id }, {})
    | none => (w, { fault := some .missingKey })
  | .disable kind =>
    ({ w with grammar := { w.grammar with disabled := kind :: w.grammar.disabled } }, {})

/-- The SQL text of the current query. -/
def sql (w : Workspace) : Except Fault String :=
  w.grammar.query (w.snapshot w.query)

/-- The values of the current query. -/
def bindings (w : Workspace) : Except Fault (List Value) :=
  (w.snapshot w.query).bindings

end Workspace

/-! ## Lists of conditions -/

structure ConditionList where
  host : Host
  conditions : List Condition := []

namespace ConditionList

/-- Add a condition by a call on the list itself. -/
def call (g : Grammar) (c : Call) (list : ConditionList) : Outcome ConditionList :=
  match c.filter with
  | .error fault => .failed list fault
  | .ok (filter, operands) =>
    match argumentsOf g operands with
    | .error fault => .failed list fault
    | .ok arguments =>
      (filter.apply list.host list.conditions arguments).within ({ list with conditions := · })

/-- What the list belongs to, as far as writing it goes. -/
def owner (list : ConditionList) : Group :=
  match list.host with
  | .join kind table _ => .join { kind, table, conditions := list.conditions }
  | _ => .query { conditions := list.conditions }

/-- Run a clause on the join that owns the list; a list without one has no clauses. -/
def clause (g : Grammar) (c : Clause) (list : ConditionList) : Outcome ConditionList :=
  match list.host with
  | .join kind table subqueries =>
    (c.onJoin g .shared subqueries { kind, table, conditions := list.conditions }).within fun j =>
      { list with conditions := j.conditions }
  | _ => .failed list .lacksMember

/-- The list's join as shown in a message. -/
def shown (list : ConditionList) : String :=
  match list.owner with
  | .join j => j.shown
  | .query _ => ""

end ConditionList

end QueryClient
