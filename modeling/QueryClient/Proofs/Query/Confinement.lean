import QueryClient.Proofs.Query.Components
import QueryClient.Proofs.Query.FailedClause

/-!
# Clauses are confined

Every clause that asks nothing of a query works on the components that it is about, each by itself,
and leaves all others alone.
-/

namespace QueryClient

/-- The verb asks something of the query. -/
def Verb.asks : Verb → Bool
  | .inspect _ => true
  | _ => false

/-- The components that a verb works on. Orders and bounds have two of them, of which unions decide
which one it is. -/
def Verb.touches : Verb → List Component
  | .filter _ => [.wheres]
  | .select | .addSelect | .selectSql => [.part .columns]
  | .distinct => [.part .distinct]
  | .fromTable => [.part .table]
  | .join => [.part .joins]
  | .groupBy => [.part .groups]
  | .having | .havingSql => [.part .havings]
  | .orderBy | .orderBySql => [.part .orders, .part .unionOrders]
  | .limit => [.part .limit, .part .unionLimit]
  | .offset => [.part .offset, .part .unionOffset]
  | .forPage => [.part .limit, .part .unionLimit, .part .offset, .part .unionOffset]
  | .union => [.part .unions]
  | .setAggregate => [.part .aggregate]
  | .setPart part => [.part part]
  | .on | .inspect _ | .rest | .refuse _ => []

/-! ## Changes of one component -/

namespace Confined

variable {touched : List Component} {change : Query → Outcome Query}

/-- Components that are left alone go on agreeing. -/
theorem of_touched (hfault : ∀ q q', (change q).fault = (change q').fault)
    (hapart : ∀ k ∈ touched, ∀ q q' : Query, q.unions.isEmpty = q'.unions.isEmpty →
      k.Agree q q' → k.Agree (change q).state (change q').state)
    (hframe : ∀ (q : Query) (k : Component), k ∉ touched → k.Agree (change q).state q) :
    Confined touched change where
  fault := hfault
  apart q q' k hu h := by
    by_cases hk : k ∈ touched
    · exact hapart k hk q q' hu h
    · exact (hframe q k hk).trans (h.trans (hframe q' k hk).symm)
  frame := hframe

/-- One part is changed, and what becomes of it depends on nothing else. -/
theorem ofPart {p : Part} {f : Query → Query}
    (hapart : ∀ q q' : Query, (Component.part p).Agree q q' →
      (Component.part p).Agree (f q) (f q'))
    (hframe : ∀ q : Query, Component.without p (f q) = Component.without p q) :
    Confined [.part p] fun q => .done (f q) := by
  refine of_touched (fun _ _ => rfl) (fun k hk q q' _ h => ?_) fun q k hk => ?_
  · obtain rfl := List.mem_singleton.mp hk
    exact hapart q q' h
  · exact Component.agree_of_without (fun heq => hk (List.mem_singleton.mpr heq)) (hframe q)

/-- Whether there are unions decides which of two parts is changed. -/
theorem byUnions {p p' : Part} {f f' : Query → Query}
    (h : Confined [.part p] fun q => .done (f q)) (h' : Confined [.part p'] fun q => .done (f' q)) :
    Confined [.part p, .part p']
      fun q => .done (if q.unions.isEmpty then f q else f' q) := by
  refine ⟨fun _ _ => rfl, fun q q' k hu hk => ?_, fun q k hk => ?_⟩
  · simp only [hu]
    split
    · exact h.apart q q' k hu hk
    · exact h'.apart q q' k hu hk
  · rw [List.mem_cons, not_or] at hk
    split
    · exact h.frame q k fun hmem => hk.1 (List.mem_singleton.mp hmem)
    · exact h'.frame q k hk.2

end Confined

namespace Query

variable {column columns operator value boolean sql values direction table first second kind
  byValue : Argument}

theorem select_confined (columns : List Argument) :
    Confined [.part .columns] fun q => .done (q.select columns) := by
  have hmade (q : Query) : q.select columns = q.updateOutline fun o => { o with
      columns := some (if (flattened columns).isEmpty then [.text "*"] else flattened columns) } :=
    rfl
  simp only [hmade]
  exact .ofPart (fun _ _ _ => rfl) fun _ => rfl

theorem addSelect_confined (columns : List Argument) :
    Confined [.part .columns] fun q => .done (q.addSelect columns) := by
  refine .ofPart (fun q q' h => ?_) fun _ => rfl
  exact congrArg (fun given => some (given.getD [] ++ flattened columns)) h

theorem distinct_confined (flag : Argument) :
    Confined [.part .distinct] fun q => .done (q.distinct flag) := by
  exact .ofPart (fun _ _ _ => rfl) fun _ => rfl

theorem fromTable_confined (table : Argument) :
    Confined [.part .table] fun q => .done (q.fromTable table) := by
  exact .ofPart (fun _ _ _ => rfl) fun _ => rfl

theorem groupBy_confined (columns : List Argument) :
    Confined [.part .groups] fun q => .done (q.groupBy columns) :=
  .ofPart (fun _ _ h => congrArg (· ++ flattened columns) h) fun _ => rfl

theorem setAggregate_confined (aggregate : Option Aggregate) :
    Confined [.part .aggregate] fun q => .done (q.setAggregate aggregate) := by
  exact .ofPart (fun _ _ _ => rfl) fun _ => rfl

theorem aggregate_confined (function columns : Argument) :
    Confined [.part .aggregate] fun q => .ofResult q do
      let columns ← columns.elements
      return q.setAggregate (some { function := function.text, columns }) := by
  have hmade (q : Query) : (do
      let columns ← columns.elements
      return q.setAggregate (some { function := function.text, columns }))
        = columns.elements.map fun columns =>
            q.setAggregate (some { function := function.text, columns }) := by
    cases columns.elements <;> rfl
  simp only [hmade]
  exact .ofResult _ fun columns => setAggregate_confined _

theorem addOrder_confined (order : Order) :
    Confined [.part .orders, .part .unionOrders] fun q => .done (q.addOrder order) := by
  have hmade (q : Query) : q.addOrder order = if q.unions.isEmpty
      then q.updateOutline fun o => { o with orders := o.orders ++ [order] }
      else q.updateOutline fun o => { o with unionOrders := o.unionOrders ++ [order] } := by
    unfold addOrder
    split <;> rfl
  simp only [hmade]
  exact .byUnions (.ofPart (fun _ _ h => congrArg (· ++ [order]) h) fun _ => rfl)
    (.ofPart (fun _ _ h => congrArg (· ++ [order]) h) fun _ => rfl)

theorem limited_confined (n : Int) :
    Confined [.part .limit, .part .unionLimit] fun q => .done (if q.unions.isEmpty
      then q.updateOutline fun o => { o with limit := some n }
      else q.updateOutline fun o => { o with unionLimit := some n }) := by
  exact .byUnions (.ofPart (fun _ _ _ => rfl) fun _ => rfl)
    (.ofPart (fun _ _ _ => rfl) fun _ => rfl)

theorem skipping_confined (n : Int) :
    Confined [.part .offset, .part .unionOffset] fun q => .done (q.skipping n) := by
  have hmade (q : Query) : q.skipping n = if q.unions.isEmpty
      then q.updateOutline fun o => { o with offset := some n }
      else q.updateOutline fun o => { o with unionOffset := some n } := by
    unfold skipping
    split <;> rfl
  simp only [hmade]
  exact .byUnions (.ofPart (fun _ _ _ => rfl) fun _ => rfl)
    (.ofPart (fun _ _ _ => rfl) fun _ => rfl)

theorem join_confined (table first operator second kind : Argument) (byValue : Bool) :
    Confined [.part .joins] fun q =>
      .ofResult q (q.join table first operator second kind byValue) := by
  have hmade (q : Query) : q.join table first operator second kind byValue
      = (joinConditions first operator second byValue
          { kind := kind.text, table := table.opaqueValue }).result.map fun join =>
            { q with joins := q.joins ++ [join] } := by
    simp only [Query.join]
    cases (joinConditions first operator second byValue _).result <;> rfl
  simp only [hmade]
  exact .ofResult _ fun join => .ofPart (fun _ _ h => congrArg (· ++ [join]) h) fun _ => rfl

theorem having_confined (column operator value : Argument) (boolean : String) :
    Confined [.part .havings] fun q => .ofResult q (q.having column operator value boolean) := by
  have hmade (q : Query) : q.having column operator value boolean
      = (prepared operator value).map fun made =>
          { q with havings := q.havings
              ++ [.compare boolean column.opaqueValue made.1 made.2.opaqueValue] } := by
    unfold having
    cases prepared operator value <;> rfl
  simp only [hmade]
  exact .ofResult _ fun made => .ofPart (fun _ _ h => congrArg (· ++ _) h) fun _ => rfl

theorem havingSql_confined (sql values : Argument) (boolean : String) :
    Confined [.part .havings] fun q => .ofResult q (q.havingSql sql values boolean) := by
  have hmade (q : Query) : q.havingSql sql values boolean
      = values.rawValues.map fun vs =>
          { q with havings := q.havings ++ [.sql boolean sql.text vs] } := by
    unfold havingSql
    cases values.rawValues <;> rfl
  simp only [hmade]
  exact .ofResult _ fun vs => .ofPart (fun _ _ h => congrArg (· ++ _) h) fun _ => rfl

theorem orderBy_confined (column direction : Argument) :
    Confined [.part .orders, .part .unionOrders] fun q =>
      .ofResult q (q.orderBy column direction) := by
  have hmade (q : Query) : q.orderBy column direction
      = (directionOf direction).map fun made => q.addOrder (.by column.opaqueValue made) := by
    unfold orderBy
    cases directionOf direction <;> rfl
  simp only [hmade]
  exact .ofResult _ fun made => addOrder_confined _

theorem limit_confined (value : Argument) :
    Confined [.part .limit, .part .unionLimit] fun q => .ofResult q (q.limit value) := by
  have hmade (q : Query) : q.limit value
      = (countOf "limit" value).map fun n => if q.unions.isEmpty
          then q.updateOutline fun o => { o with limit := some n }
          else q.updateOutline fun o => { o with unionLimit := some n } := by
    unfold limit
    cases countOf "limit" value with
    | error fault => rfl
    | ok n => cases hempty : q.unions.isEmpty <;> rfl
  simp only [hmade]
  exact .ofResult _ limited_confined

theorem offset_confined (value : Argument) :
    Confined [.part .offset, .part .unionOffset] fun q => .ofResult q (q.offset value) := by
  simp only [offset_eq]
  exact .ofResult _ skipping_confined

theorem union_confined (query : Argument) (all : Bool) :
    Confined [.part .unions] fun q => .ofResult q (q.union query all) := by
  have hmade (q : Query) : q.union query all
      = (({} : Query).host.source query).map fun source =>
          { q with unions := q.unions ++ [{ source, all }] } := by
    unfold Query.union
    rw [show q.host.source = ({} : Query).host.source from
      Group.source_host (.query q) (.query {})]
    cases ({} : Query).host.source query <;> rfl
  simp only [hmade]
  exact .ofResult _ fun source => .ofPart (fun _ _ h => congrArg (· ++ _) h) fun _ => rfl

end Query

/-- A part is set to what was worked out beforehand. -/
theorem Part.confined_of_outline {v : Value} {part : Part} {α : Type} (e : Except Fault α)
    {f : α → Outline → Outline}
    (hmade : ∀ q, part.assign v q = e >>= fun a => .ok (q.updateOutline (f a)))
    (hapart : ∀ (a : α) (q q' : Query),
      (Component.part part).Agree (q.updateOutline (f a)) (q'.updateOutline (f a)))
    (hframe : ∀ (a : α) (q : Query),
      Component.without part (q.updateOutline (f a)) = Component.without part q) :
    Confined [.part part] fun q => .ofResult q (part.assign v q) := by
  have hmap (q : Query) : part.assign v q = e.map fun a => q.updateOutline (f a) := by
    rw [hmade]
    cases e <;> rfl
  simp only [hmap]
  exact .ofResult e fun a => .ofPart (fun q q' _ => hapart a q q') (hframe a)

/-- Setting a part directly is a change of that part. -/
theorem Part.assign_confined (v : Value) (part : Part) :
    Confined [.part part] fun q => .ofResult q (part.assign v q) := by
  cases part with
  | table | distinct => exact .ofPart (fun _ _ _ => rfl) fun _ => rfl
  | limit | offset | unionLimit | unionOffset =>
      exact confined_of_outline _ (fun _ => rfl) (fun _ _ _ => rfl) fun _ _ => rfl
  | columns =>
      refine confined_of_outline (if v.isNull then pure none else some <$> v.elements)
        (f := fun columns o => { o with columns }) (fun q => ?_) (fun _ _ _ => rfl) fun _ _ => rfl
      cases hnull : v.isNull <;> simp only [assign, hnull] <;> rfl
  | groups =>
      refine confined_of_outline (if v.isTruthy then v.elements else pure [])
        (f := fun groups o => { o with groups }) (fun q => ?_) (fun _ _ _ => rfl) fun _ _ => rfl
      cases htruthy : v.isTruthy <;> simp only [assign, htruthy] <;> rfl
  | aggregate =>
      cases hnull : v.isNull with
      | false =>
          simp only [assign, hnull]
          exact .failed .lacksMember
      | true =>
          simp only [assign, hnull]
          exact .ofPart (fun _ _ _ => rfl) fun _ => rfl
  | joins | havings | unions | orders | unionOrders =>
      cases htruthy : v.isTruthy with
      | true =>
          simp only [assign, htruthy]
          exact .failed .lacksMember
      | false =>
          simp only [assign, htruthy]
          exact .ofPart (fun _ _ _ => rfl) fun _ => rfl

/-- A filter changes nothing but the conditions, and what it adds to them is the same whatever the
query is. -/
theorem Filter.confined {filter : Filter} {arguments : List Argument}
    (hfill : ∀ callback, filter.groupCallback? arguments = some callback →
      ∀ q q', callback.FillsAlike (.query q) (.query q')) :
    Confined [.wheres] fun q =>
      q.changeConditions fun host cs => filter.apply host cs arguments := by
  have hchanged (q : Query) : (q.changeConditions fun host cs => filter.apply host cs arguments)
      = (filter.apply q.host [] arguments).within fun added =>
          { q with conditions := q.conditions ++ added } :=
    congrArg (Outcome.within · _) (apply_append (.query q) q.conditions filter arguments)
  have hadded (q q' : Query) : (filter.apply q.host [] arguments).within visibleConditions
      = (filter.apply q'.host [] arguments).within visibleConditions :=
    apply_visible (m := .query q) fun callback hcallback => hfill callback hcallback q q'
  simp only [hchanged]
  refine .of_touched (fun q q' => ?_) (fun k hk q q' _ h => ?_) fun q k hk => ?_
  · exact (Outcome.mk.inj (hadded q q')).2
  · obtain rfl := List.mem_singleton.mp hk
    have hstate := (Outcome.mk.inj (hadded q q')).1
    simp only [Component.Agree, Outcome.within, visibleConditions_append] at h ⊢
    rw [h, hstate]
  · cases k with
    | wheres => exact absurd (List.mem_singleton.mpr rfl) hk
    | part part => cases part <;> rfl

theorem Query.forPage_confined (page perPage : Argument) :
    Confined Verb.forPage.touches fun q => q.forPage page perPage := by
  cases hrows : rowsInFront page perPage with
  | error fault =>
      simp only [forPage_of_error hrows]
      exact .failed fault
  | ok n =>
      have hskipped : Confined Verb.forPage.touches fun q => .done (q.skipping n) :=
        (skipping_confined n).mono (by simp [Verb.touches])
      have hlimited : Confined Verb.forPage.touches fun q => .ofResult q (q.limit perPage) :=
        (limit_confined perPage).mono (by simp [Verb.touches])
      simp only [forPage_of_ok hrows]
      exact hskipped.andThen hlimited (by simp [Verb.touches])

/-! ## Verbs -/

/-- The number of arguments that a verb takes, when it is settled. -/
def Verb.arity? : Verb → Option Nat
  | .rest => some 0
  | .selectSql | .distinct | .fromTable | .orderBySql | .limit | .offset | .setPart _ => some 1
  | .orderBy | .forPage | .union | .setAggregate => some 2
  | .havingSql => some 3
  | .having => some 4
  | .join => some 6
  | .filter _ | .on | .select | .addSelect | .groupBy | .inspect _ | .refuse _ => none

theorem Verb.onQuery_of_length {verb : Verb} {arguments : List Argument} {n : Nat}
    (h : verb.arity? = some n) (hlength : arguments.length ≠ n) (g : Grammar)
    (find : Nat → Source) (q : Query) :
    verb.onQuery g find q arguments = .failed q .wrongKind := by
  unfold onQuery
  split <;> simp_all [arity?]

theorem Verb.confined {verb : Verb} {arguments : List Argument} (hasks : verb.asks = false)
    (hfill : ∀ filter callback, verb = .filter filter →
      filter.groupCallback? arguments = some callback →
      ∀ q q', callback.FillsAlike (.query q) (.query q')) (g : Grammar) (find : Nat → Source) :
    Confined verb.touches fun q => verb.onQuery g find q arguments := by
  by_cases hlength : ∀ n, verb.arity? = some n → arguments.length = n
  · cases verb with
    | filter filter => exact Filter.confined fun callback => hfill filter callback rfl
    | on => exact .failed .lacksMember
    | select => exact Query.select_confined arguments
    | addSelect => exact Query.addSelect_confined arguments
    | groupBy => exact Query.groupBy_confined arguments
    | refuse fault => exact .failed fault
    | inspect terminal => cases hasks
    | rest =>
        match arguments, hlength 0 rfl with
        | [], _ => exact .done
    | selectSql =>
        match arguments, hlength 1 rfl with
        | [sql], _ => exact Query.addSelect_confined [.value (.raw sql.opaqueValue)]
    | distinct =>
        match arguments, hlength 1 rfl with
        | [flag], _ => exact Query.distinct_confined flag
    | fromTable =>
        match arguments, hlength 1 rfl with
        | [table], _ => exact Query.fromTable_confined table
    | orderBySql =>
        match arguments, hlength 1 rfl with
        | [sql], _ => exact Query.addOrder_confined (.sql sql.opaqueValue)
    | limit =>
        match arguments, hlength 1 rfl with
        | [value], _ => exact Query.limit_confined value
    | offset =>
        match arguments, hlength 1 rfl with
        | [value], _ => exact Query.offset_confined value
    | setPart part =>
        match arguments, hlength 1 rfl with
        | [v], _ => exact part.assign_confined v.opaqueValue
    | orderBy =>
        match arguments, hlength 2 rfl with
        | [column, direction], _ => exact Query.orderBy_confined column direction
    | forPage =>
        match arguments, hlength 2 rfl with
        | [page, perPage], _ => exact Query.forPage_confined page perPage
    | union =>
        match arguments, hlength 2 rfl with
        | [query, all], _ => exact Query.union_confined query all.isTruthy
    | setAggregate =>
        match arguments, hlength 2 rfl with
        | [function, columns], _ => exact Query.aggregate_confined function columns
    | havingSql =>
        match arguments, hlength 3 rfl with
        | [sql, values, boolean], _ => exact Query.havingSql_confined sql values boolean.text
    | having =>
        match arguments, hlength 4 rfl with
        | [column, operator, value, boolean], _ =>
            exact Query.having_confined column operator value boolean.text
    | join =>
        match arguments, hlength 6 rfl with
        | [table, first, operator, second, kind, byValue], _ =>
            exact Query.join_confined table first operator second kind byValue.isTruthy
  · obtain ⟨n, hn⟩ := Classical.not_forall.mp hlength
    obtain ⟨harity, hne⟩ := Classical.not_imp.mp hn
    simp only [onQuery_of_length harity hne]
    exact .failed .wrongKind

end QueryClient
