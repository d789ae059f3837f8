import QueryClient.Proofs.Sql.Inert
import QueryClient.Query.Bindings
import QueryClient.Query.Compile
import QueryClient.Sql.Bind

/-!
# Queries with literals in the place of values

Two ways lead from a query to a statement without placeholders: compile it and bind its values, or
put the literal of every value where the value stands and compile that. This module defines the
second way, and what a query has to be like so that the first one can work at all: what is written
as it is must be inert, and no group may hold values that its text does not show.
-/

namespace QueryClient

/-! ## Literals in place -/

/-- The literal of a value as raw SQL; raw SQL stays what it is. -/
def Value.inlined : Value → Value
  | .raw inner => .raw inner
  | v => .raw (.text (Sql.literal v))

mutual

/-- A condition with literals in the place of values. Raw SQL takes its values by position, and
both bounds of a range stand behind one operator. Of a group only the conditions are written, so
that its other parts stay what they are. -/
def Condition.inlined : Condition → Except Fault Condition
  | .sql boolean text values => do return .sql boolean (← Sql.bind text (.list values)) []
  | .compare boolean column operator value => .ok (.compare boolean column operator value.inlined)
  | .among boolean column values negated =>
    .ok (.among boolean column (values.map Value.inlined) negated)
  | .amongRows boolean column source negated => do
    return .amongRows boolean column (← source.inlined) negated
  | .isNull boolean column negated => .ok (.isNull boolean column negated)
  | .between boolean column low high negated =>
    .ok (.compare boolean column (if negated then "not between" else "between")
      (.raw (.text (Sql.literal low ++ " and " ++ Sql.literal high))))
  | .datePart boolean function column operator value =>
    .ok (.datePart boolean function column operator value.inlined)
  | .group boolean members => do return .group boolean (← members.inlined)
  | .compareRow boolean column operator source => do
    return .compareRow boolean column operator (← source.inlined)
  | .existence boolean source negated => do return .existence boolean (← source.inlined) negated
  | .compareColumns boolean first operator second =>
    .ok (.compareColumns boolean first operator second)

def Group.inlined : Group → Except Fault Group
  | .query ⟨outline, joins, conditions, havings, unions⟩ => do
    return .query ⟨outline, joins, ← inlinedConditions conditions, havings, unions⟩
  | .join ⟨kind, table, conditions⟩ => do
    return .join ⟨kind, table, ← inlinedConditions conditions⟩

def Source.inlined : Source → Except Fault Source
  | .own q => do return .own (← q.inlined)
  | .shared id => .ok (.shared id)
  | .other v => .ok (.other v)

def Join.inlined : Join → Except Fault Join
  | ⟨kind, table, conditions⟩ => do return ⟨kind, table, ← inlinedConditions conditions⟩

def Union.inlined : Union → Except Fault Union
  | ⟨source, all⟩ => do return ⟨← source.inlined, all⟩

def Query.inlined : Query → Except Fault Query
  | ⟨outline, joins, conditions, havings, unions⟩ => do
    return ⟨outline, ← inlinedJoins joins, ← inlinedConditions conditions,
      ← inlinedConditions havings, ← inlinedUnions unions⟩

def inlinedConditions : List Condition → Except Fault (List Condition)
  | [] => .ok []
  | condition :: rest => do return (← condition.inlined) :: (← inlinedConditions rest)

def inlinedJoins : List Join → Except Fault (List Join)
  | [] => .ok []
  | join :: rest => do return (← join.inlined) :: (← inlinedJoins rest)

def inlinedUnions : List Union → Except Fault (List Union)
  | [] => .ok []
  | union :: rest => do return (← union.inlined) :: (← inlinedUnions rest)

end

/-- A query as SQL with the literal of every value in its place. -/
def Grammar.inline (g : Grammar) (q : Query) : Except Fault String := do
  g.query (← q.inlined)

/-! ## Inert fragments -/

/-- The text could be written and is inert. -/
def IsInert (text : Except Fault String) : Prop :=
  ∃ s, text = .ok s ∧ Sql.Inert s.toList

instance : (text : Except Fault String) → Decidable (IsInert text)
  | .ok s => decidable_of_iff (Sql.Inert s.toList)
    ⟨fun h => ⟨s, rfl, h⟩, fun ⟨_, hs, h⟩ => (Except.ok.inj hs) ▸ h⟩
  | .error _ => .isFalse fun ⟨_, hs, _⟩ => nomatch hs

/-- Raw SQL that is written instead of a placeholder is inert. -/
def Value.WellWritten (v : Value) : Prop :=
  v.isRaw = true → Sql.Inert (Grammar.parameter v).toList

instance (v : Value) : Decidable v.WellWritten :=
  inferInstanceAs (Decidable (v.isRaw = true → Sql.Inert (Grammar.parameter v).toList))

/-- The column of an order, or its raw SQL, is inert. -/
def Order.WellWritten (g : Grammar) : Order → Prop
  | .by column _ => IsInert (g.column column)
  | .sql text => ∃ s, text = .text s ∧ Sql.Inert s.toList

/-- Everything that is written of an outline without unions is inert. -/
structure Outline.WellWritten (g : Grammar) (o : Outline) : Prop where
  columns : o.aggregate = none → ∀ v ∈ o.columns.getD [.text "*"], IsInert (g.column v)
  aggregate : ∀ a ∈ o.aggregate,
    Sql.Inert a.function.toList ∧ ∀ v ∈ a.columns, IsInert (g.column v)
  table : o.table.isNull = false → IsInert (g.table o.table)
  groups : ∀ v ∈ o.groups, IsInert (g.column v)
  orders : ∀ order ∈ o.orders, order.WellWritten g

mutual

/-- Everything that is written of a condition is inert; raw SQL has as many placeholders as it has
values. An inner query must be one: nothing else can be written. -/
def Condition.WellWritten (g : Grammar) : Condition → Prop
  | .sql boolean text values =>
    Sql.Inert boolean.toList ∧ Sql.Region.code.run text.toList = .code
      ∧ Sql.placeholderCount .code text.toList = values.length
  | .compare boolean column operator value =>
    Sql.Inert boolean.toList ∧ IsInert (g.column column) ∧ Sql.Inert operator.toList
      ∧ value.WellWritten
  | .among boolean column values _ =>
    Sql.Inert boolean.toList ∧ (values ≠ [] → IsInert (g.column column))
      ∧ ∀ v ∈ values, v.WellWritten
  | .amongRows boolean column source _ =>
    Sql.Inert boolean.toList ∧ IsInert (g.column column) ∧ source.WellWritten g
  | .isNull boolean column _ | .between boolean column _ _ _ =>
    Sql.Inert boolean.toList ∧ IsInert (g.column column)
  | .datePart boolean function column operator value =>
    Sql.Inert boolean.toList ∧ Sql.Inert function.toList ∧ IsInert (g.column column)
      ∧ Sql.Inert operator.toList ∧ value.WellWritten
  | .group boolean members => Sql.Inert boolean.toList ∧ members.WellWritten g
  | .compareRow boolean column operator source =>
    Sql.Inert boolean.toList ∧ IsInert (g.column column) ∧ Sql.Inert operator.toList
      ∧ source.WellWritten g
  | .existence boolean source _ => Sql.Inert boolean.toList ∧ source.WellWritten g
  | .compareColumns boolean first operator second =>
    Sql.Inert boolean.toList ∧ IsInert (g.column first) ∧ Sql.Inert operator.toList
      ∧ IsInert (g.column second)

/-- The conditions of a group are written well; nothing else of it is written. -/
def Group.WellWritten (g : Grammar) : Group → Prop
  | .query ⟨_, _, conditions, _, _⟩ => WellWrittenConditions g conditions
  | .join ⟨_, _, conditions⟩ => WellWrittenConditions g conditions

def Source.WellWritten (g : Grammar) : Source → Prop
  | .own q => q.WellWritten g
  | .shared _ | .other _ => False

def Join.WellWritten (g : Grammar) : Join → Prop
  | ⟨kind, table, conditions⟩ =>
    Sql.Inert kind.toList ∧ IsInert (g.table table) ∧ WellWrittenConditions g conditions

def Union.WellWritten (g : Grammar) : Union → Prop
  | ⟨source, _⟩ => source.WellWritten g

/-- Everything that is written of a query is inert. -/
def Query.WellWritten (g : Grammar) : Query → Prop
  | ⟨outline, joins, conditions, havings, unions⟩ =>
    outline.WellWritten g ∧ WellWrittenJoins g joins ∧ WellWrittenConditions g conditions
      ∧ WellWrittenConditions g havings ∧ WellWrittenUnions g unions
      ∧ (unions ≠ [] → ∀ order ∈ outline.unionOrders, order.WellWritten g)

def WellWrittenConditions (g : Grammar) : List Condition → Prop
  | [] => True
  | condition :: rest => condition.WellWritten g ∧ WellWrittenConditions g rest

def WellWrittenJoins (g : Grammar) : List Join → Prop
  | [] => True
  | join :: rest => join.WellWritten g ∧ WellWrittenJoins g rest

def WellWrittenUnions (g : Grammar) : List Union → Prop
  | [] => True
  | union :: rest => union.WellWritten g ∧ WellWrittenUnions g rest

end

/-! ## Groups that show their values -/

mutual

/-- Every group in the condition binds what its text shows; the definitions below say the same of
the other parts of a query. -/
def Condition.Tight : Condition → Prop
  | .group _ members => members.Tight
  | .amongRows _ _ source _ | .compareRow _ _ _ source | .existence _ source _ => source.Tight
  | .sql .. | .compare .. | .among .. | .isNull .. | .between .. | .datePart ..
  | .compareColumns .. => True

/-- Joins, conditions on groups and unions of the query behind a group are not written; they hold
no values. -/
def Group.Tight : Group → Prop
  | .query ⟨_, joins, conditions, havings, unions⟩ =>
    bindingsOfJoins joins = .ok [] ∧ TightConditions conditions
      ∧ bindingsOfConditions havings = .ok [] ∧ bindingsOfUnions unions = .ok []
  | .join ⟨_, _, conditions⟩ => TightConditions conditions

def Source.Tight : Source → Prop
  | .own q => q.Tight
  | .shared _ | .other _ => True

def Join.Tight : Join → Prop
  | ⟨_, _, conditions⟩ => TightConditions conditions

def Union.Tight : Union → Prop
  | ⟨source, _⟩ => source.Tight

def Query.Tight : Query → Prop
  | ⟨_, joins, conditions, havings, unions⟩ =>
    TightJoins joins ∧ TightConditions conditions ∧ TightConditions havings ∧ TightUnions unions

def TightConditions : List Condition → Prop
  | [] => True
  | condition :: rest => condition.Tight ∧ TightConditions rest

def TightJoins : List Join → Prop
  | [] => True
  | join :: rest => join.Tight ∧ TightJoins rest

def TightUnions : List Union → Prop
  | [] => True
  | union :: rest => union.Tight ∧ TightUnions rest

end

end QueryClient
