import QueryClient.Query.Workspace

/-!
# Builders

A builder keeps its query in objects that are changed in place: every part of a query that grows is
a list at an address, and so are the conditions of every join. A clause adds to the list that is
there, and two queries that had a list in common would both show what is added. A copy has lists and
joins of its own, for every query that it takes along; only what makes groups and inner queries for
callbacks belongs to a builder and is shared.
-/

namespace QueryClient

/-! ## Objects -/

/-- The parts of a query that are lists. -/
inductive Slot where
  | joins | conditions | groups | havings | orders | unions | unionOrders
deriving Repr, DecidableEq

namespace Slot

def all : List Slot :=
  [joins, conditions, groups, havings, orders, unions, unionOrders]

def index (slot : Slot) : Nat :=
  all.idxOf slot

end Slot

/-- What is joined. -/
structure JoinTarget where
  kind : String
  table : Value
  /-- The builder that makes inner queries for the conditions. -/
  maker : Nat

/-- A join, with the address of the list of its conditions. -/
structure JoinObject extends JoinTarget where
  conditions : Nat

/-- What stands in a list. -/
inductive Item where
  | join (join : JoinObject)
  | condition (condition : Condition)
  | value (value : Value)
  | order (order : Order)
  | union (union : Union)

namespace Item

def join? : Item → Option JoinObject
  | join j => some j
  | _ => none

def condition? : Item → Option Condition
  | condition c => some c
  | _ => none

def value? : Item → Option Value
  | value v => some v
  | _ => none

def order? : Item → Option Order
  | order o => some o
  | _ => none

def union? : Item → Option Union
  | union u => some u
  | _ => none

end Item

/-- A query, with the addresses of its lists. -/
structure Model where
  /-- The parts that are no lists. -/
  outline : Outline
  lists : Slot → Nat
  /-- The builder that makes groups and inner queries for the conditions. -/
  maker : Nat

/-- Lists by address and queries by number. -/
structure Heap where
  lists : List (List Item) := []
  models : List Model := []

namespace Heap

/-! ## Reading -/

def contents (h : Heap) (address : Nat) : List Item :=
  (h.lists[address]?).getD []

def conditionsAt (h : Heap) (address : Nat) : List Condition :=
  (h.contents address).filterMap Item.condition?

def join (h : Heap) (j : JoinObject) : Join where
  kind := j.kind
  table := j.table
  conditions := h.conditionsAt j.conditions

/-- The query that the objects amount to. -/
def query (h : Heap) (m : Model) : Query where
  outline := { m.outline with
    groups := (h.contents (m.lists .groups)).filterMap Item.value?
    orders := (h.contents (m.lists .orders)).filterMap Item.order?
    unionOrders := (h.contents (m.lists .unionOrders)).filterMap Item.order? }
  joins := ((h.contents (m.lists .joins)).filterMap Item.join?).map h.join
  conditions := h.conditionsAt (m.lists .conditions)
  havings := h.conditionsAt (m.lists .havings)
  unions := (h.contents (m.lists .unions)).filterMap Item.union?

def queries (h : Heap) : List Query :=
  h.models.map h.query

/-- What the conditions of a query belong to: groups are made with the table that the maker's query
has when it is asked for one. -/
def host (h : Heap) (m : Model) : Host :=
  .query ((h.models[m.maker]?).elim .null (·.outline.table))

/-! ## Writing -/

/-- Add joins with lists of their own for their conditions. -/
def addJoins (h : Heap) : List (JoinTarget × List Item) → List Item × Heap
  | [] => ([], h)
  | (target, conditions) :: rest =>
    let join := Item.join { target with conditions := h.lists.length }
    let (joins, h) := addJoins { h with lists := h.lists ++ [conditions] } rest
    (join :: joins, h)

/-- Add a query with lists of its own. -/
def addModel (h : Heap) (outline : Outline) (items : Slot → List Item) (maker : Nat) : Heap where
  lists := h.lists ++ Slot.all.map items
  models := h.models ++ [{ outline, lists := (h.lists.length + ·.index), maker }]

/-- Give a query another, empty list in a place; the old one stays as it is. -/
def renew (h : Heap) (id : Nat) (slot : Slot) : Heap :=
  match h.models[id]? with
  | none => h
  | some m =>
    let lists := fun other => if other = slot then h.lists.length else m.lists other
    { lists := h.lists ++ [[]], models := h.models.set id { m with lists } }

end Heap

/-- The outline without its lists. -/
def Outline.flat (o : Outline) : Outline :=
  { o with groups := [], orders := [], unionOrders := [] }

/-- What stands in the lists of a query, with the given items for its joins. -/
def Query.items (q : Query) (joins : List Item) : Slot → List Item
  | .joins => joins
  | .conditions => q.conditions.map .condition
  | .groups => q.outline.groups.map .value
  | .havings => q.havings.map .condition
  | .orders => q.outline.orders.map .order
  | .unions => q.unions.map .union
  | .unionOrders => q.outline.unionOrders.map .order

/-- A join as it is added, with its conditions for a list. -/
def Join.parts (maker : Nat) (j : Join) : JoinTarget × List Item :=
  ({ kind := j.kind, table := j.table, maker }, j.conditions.map .condition)

namespace Heap

/-- Put items into the lists at the places of a query. -/
def write (lists : List (List Item)) (places : Slot → Nat) (items : Slot → List Item) :
    List (List Item) :=
  Slot.all.foldl (fun lists slot => lists.set (places slot) (items slot)) lists

/-- Change a query in place: the parts that are no lists, and what stands in its lists. -/
def overwrite (h : Heap) (id : Nat) (m : Model) (outline : Outline) (items : Slot → List Item) :
    Heap where
  lists := write h.lists m.lists items
  models := h.models.set id { m with outline }

/-- Write what became of a query into its objects. The joins that it has stay; those behind them are
new. -/
def store (h : Heap) (id : Nat) (q : Query) : Heap :=
  match h.models[id]? with
  | none => h
  | some m =>
    let new := q.joins.drop (h.query m).joins.length
    let (added, h) := h.addJoins (new.map (·.parts m.maker))
    h.overwrite id m q.outline.flat (q.items (h.contents (m.lists .joins) ++ added))

/-- Write what became of a query, which may be given another list for it. -/
def update (h : Heap) (id : Nat) (renewed : Option Slot) (q : Query) : Heap :=
  match renewed with
  | none => h.store id q
  | some slot => (h.renew id slot).store id q

end Heap

/-! ## Copies -/

/-- The item with other numbers for the queries that stand in it. -/
def Item.renumber (number : Nat → Nat) : Item → Item
  | .condition c => .condition (c.resolve fun id => .shared (number id))
  | .union u => .union (u.resolve fun id => .shared (number id))
  | item => item

namespace Heap

/-- What stands in a list, for a copy of the list. -/
def renumbered (number : Nat → Nat) (h : Heap) (address : Nat) : List Item :=
  (h.contents address).map (Item.renumber number)

/-- Copy the joins of a list. The conditions of each go into a list of its own, and its maker is
shared. -/
def copyJoins (number : Nat → Nat) (h : Heap) (address : Nat) : List Item × Heap :=
  h.addJoins <| ((h.contents address).filterMap Item.join?).map fun j =>
    (j.toJoinTarget, h.renumbered number j.conditions)

/-- Copy a query with its lists and joins. The maker of its conditions is shared. -/
def copyModel (number : Nat → Nat) (h : Heap) (id : Nat) : Heap :=
  match h.models[id]? with
  | none => h
  | some m =>
    let (joins, h) := h.copyJoins number (m.lists .joins)
    let items := fun slot => if slot = .joins then joins else h.renumbered number (m.lists slot)
    h.addModel m.outline items m.maker

/-- Copy a query and all that are met from it on, each once. Their copies have the next numbers, and
refer to each other by them. -/
def copy (h : Heap) (id : Nat) : Heap :=
  let met := Workspace.met h.queries id
  met.foldl (copyModel (Workspace.copyNumber h.models.length met)) h

/-- Let the builder of a query make groups and inner queries for it. -/
def adopt (h : Heap) (id : Nat) : Heap :=
  { h with models := h.models.modify id ({ · with maker := id }) }

end Heap

/-! ## Clauses -/

/-- The list that a query is given anew when a part is set. -/
def Part.slot? : Part → Option Slot
  | joins => some .joins
  | groups => some .groups
  | havings => some .havings
  | orders => some .orders
  | unions => some .unions
  | unionOrders => some .unionOrders
  | table | columns | distinct | aggregate | limit | offset | unionLimit | unionOffset => none

/-- The list that a clause gives anew instead of adding to it. -/
def Verb.renews? : Verb → Option Slot
  | setPart part => part.slot?
  | _ => none

/-- Run a clause on a query whose conditions belong to a host. -/
def Clause.onHosted (g : Grammar) (find : Nat → Source) (host : Host) (clause : Clause)
    (q : Query) : Outcome Query :=
  match clause.verb with
  | .filter filter =>
    if clause.reach = .joins then .failed q .lacksMember
    else match argumentsWith g find clause.operands with
      | .error fault => .failed q fault
      | .ok arguments =>
        (filter.apply host q.conditions arguments).within fun conditions => { q with conditions }
  | _ => clause.onQuery g find q

/-- Builders, each with the query of its number, names for some of them, and the one that is in
use. -/
structure Builders where
  grammar : Grammar := {}
  heap : Heap := ({} : Heap).addModel {} (fun _ => []) 0
  names : List (String × Nat) := [("main", 0)]
  current : Nat := 0

namespace Builders

open Workspace (Step Reply)

/-- The queries that the objects amount to. -/
def view (b : Builders) : Workspace where
  grammar := b.grammar
  queries := b.heap.queries
  names := b.names
  current := b.current

/-- Run a clause on the builder in use. -/
def run (b : Builders) (clause : Clause) : Builders × Reply :=
  match b.view.ask clause, b.heap.models[b.current]? with
  | some (.ok v), _ => (b, { answer := some v })
  | some (.error fault), _ => (b, { fault := some fault })
  | none, none => (b, {})
  | none, some m =>
    let outcome := clause.onHosted b.grammar b.view.find (b.heap.host m) (b.heap.query m)
    let renewed := if outcome.fault.isNone then clause.verb.renews? else none
    ({ b with heap := b.heap.update b.current renewed outcome.state }, { fault := outcome.fault })

def step (b : Builders) : Step → Builders × Reply
  | .clause clause => b.run clause
  | .clone name =>
    let id := b.heap.models.length
    ({ b with heap := (b.heap.copy b.current).adopt id, names := (name, id) :: b.names }, {})
  | .fresh name =>
    let id := b.heap.models.length
    ({ b with
        heap := b.heap.addModel {} (fun _ => []) id
        names := (name, id) :: b.names }, {})
  | .use name =>
    match b.names.lookup name with
    | some id => ({ b with current := id }, {})
    | none => (b, { fault := some .missingKey })
  | .disable kind =>
    ({ b with grammar := { b.grammar with disabled := kind :: b.grammar.disabled } }, {})

end Builders

end QueryClient
