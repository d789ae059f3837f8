import QueryClient.Proofs.Query.Rendering
import QueryClient.Query.Terminal

/-!
# Select lists

A statement is a select, and behind it the statements that it is united with. It is written from a
tree of such selects, each with the list of what it selects. A function over the rows of a union
takes the place of the first list and leaves all others as they are.
-/

namespace QueryClient

/-! ## Statements as trees -/

/-- A select by itself: what it selects, and its other parts. -/
structure Select where
  distinct : Bool
  items : List String
  parts : List String

def Select.text (s : Select) : String :=
  Text.trim (Text.join " "
    (((if s.distinct then "select distinct " else "select ") ++ Text.join ", " s.items) :: s.parts))

mutual

/-- A select with the statements that it is united with, and what follows them. -/
structure Compound where
  first : Select
  others : List Branch
  tail : String

/-- A statement that another one is united with. -/
structure Branch where
  all : Bool
  statement : Compound

end

mutual

def Compound.text : Compound → String
  | ⟨first, others, tail⟩ => Grammar.united first.text (textsOfBranches others) tail

def Branch.text : Branch → String
  | ⟨all, statement⟩ => (if all then " union all (" else " union (") ++ statement.text ++ ")"

def textsOfBranches : List Branch → List String
  | [] => []
  | branch :: rest => branch.text :: textsOfBranches rest

end

mutual

/-- The select lists, in the order in which they stand in the text. -/
def Compound.lists : Compound → List (List String)
  | ⟨first, others, _⟩ => first.items :: listsOfBranches others

def Branch.lists : Branch → List (List String)
  | ⟨_, statement⟩ => statement.lists

def listsOfBranches : List Branch → List (List String)
  | [] => []
  | branch :: rest => branch.lists ++ listsOfBranches rest

end

namespace Grammar

variable (g : Grammar)

/-- A function over columns; it is over their distinct values when rows are to be distinct. -/
def called (function : String) (distinct : Bool) (columns : String) : String :=
  function ++ "(" ++ (if distinct && columns != "*" then "distinct " ++ columns else columns)
    ++ ") as aggregate"

/-- What is selected, one text for each column. -/
def selectItems (o : Outline) : Except Fault (List String) :=
  match o.aggregate with
  | some aggregate => do
    return [called aggregate.function o.distinct (← g.columns aggregate.columns)]
  | none => (o.columns.getD [.text "*"]).mapM g.column

/-- The other parts of a select, without those that are missing. -/
def selectParts (outline : Outline) (joins : List Join) (conditions havings : List Condition) :
    Except Fault (List String) := do
  let fromTable ← g.fromTable outline
  let joins ← g.joins joins
  let wheres ← g.conditions conditions
  let grouping ← g.grouping outline
  let havings ← g.conditions havings
  let ordering ← g.ordering outline.orders
  return fromTable ++ whenAny joins (Text.join " " joins)
    ++ whenAny wheres (introduced "where" wheres) ++ grouping
    ++ whenAny havings (introduced "having" havings) ++ ordering ++ bound "limit" outline.limit
    ++ bound "offset" outline.offset

def select (outline : Outline) (joins : List Join) (conditions havings : List Condition) :
    Except Fault Select := do
  let items ← g.selectItems outline
  let parts ← g.selectParts outline joins conditions havings
  return { distinct := outline.distinct && outline.aggregate.isNone, items, parts }

/-- Order and bounds behind united statements; without any there are none. -/
def tailBehind (others : List Branch) (o : Outline) : Except Fault String :=
  if others.isEmpty then .ok "" else g.unionTail o

mutual

/-- The tree that a query is written from. -/
def compound : Query → Except Fault Compound
  | ⟨outline, joins, conditions, havings, unions⟩ => do
    let first ← g.select outline joins conditions havings
    let others ← branches unions
    let tail ← g.tailBehind others outline
    return ⟨first, others, tail⟩

def compoundOfSource : Source → Except Fault Compound
  | .own q => compound q
  | .shared _ => .error .endless
  | .other _ => .error .lacksMember

def branch : Union → Except Fault Branch
  | ⟨source, all⟩ => do return ⟨all, ← compoundOfSource source⟩

def branches : List Union → Except Fault (List Branch)
  | [] => .ok []
  | u :: rest => do
    let first ← branch u
    return first :: (← branches rest)

end

/-! ## What is written is the text of the tree -/

variable {g}

theorem bind_map {α β γ : Type} (x : Except Fault α) (next : α → Except Fault β) (f : β → γ) :
    (x >>= next).map f = x >>= fun a => (next a).map f := by
  cases x <;> rfl

theorem textsOfBranches_isEmpty (others : List Branch) :
    (textsOfBranches others).isEmpty = others.isEmpty := by
  cases others with
  | nil => rfl
  | cons b rest => rfl

theorem selection_eq (o : Outline) :
    g.selection o = (g.selectItems o).map fun items =>
      [(if o.distinct && o.aggregate.isNone then "select distinct " else "select ")
        ++ Text.join ", " items] := by
  cases haggregate : o.aggregate with
  | none =>
      simp only [selection, selectItems, haggregate, columns, Option.isNone_none, Bool.and_true]
      cases (o.columns.getD [.text "*"]).mapM g.column <;> rfl
  | some aggregate =>
      simp only [selection, selectItems, haggregate, Option.isNone_some, Bool.and_false,
        Bool.false_eq_true, ↓reduceIte]
      cases g.columns aggregate.columns with
      | error fault => rfl
      | ok names =>
          refine congrArg (fun sql => Except.ok [sql]) ?_
          simp only [called, Text.join_singleton, String.append_assoc]

mutual

theorem query_eq_text : (q : Query) → g.query q = (g.compound q).map Compound.text
  | ⟨outline, joins, conditions, havings, unions⟩ => by
      rw [query, compound, select, selectParts, selection_eq, unions_eq_texts unions]
      simp only [map_bind, bind_map, bind_assoc, textsOfBranches_isEmpty]
      refine bind_congr fun items => bind_congr fun fromTable => bind_congr fun joins =>
        bind_congr fun wheres => bind_congr fun grouping => bind_congr fun havings =>
        bind_congr fun ordering => ?_
      simp only [pure_bind]
      refine bind_congr fun others => ?_
      cases others with
      | nil => rfl
      | cons b rest => cases htail : g.unionTail outline <;> simp only [tailBehind, htail] <;> rfl

theorem source_eq_text : (s : Source) → g.source s = (g.compoundOfSource s).map Compound.text
  | .own q => by rw [source, compoundOfSource, query_eq_text q]
  | .shared _ => by rw [source, compoundOfSource]; rfl
  | .other _ => by rw [source, compoundOfSource]; rfl

theorem union_eq_text : (u : Union) → g.union u = (g.branch u).map Branch.text
  | ⟨source, all⟩ => by
      rw [union, branch, source_eq_text source]
      cases g.compoundOfSource source <;> rfl

theorem unions_eq_texts :
    (us : List Union) → g.unions us = (g.branches us).map textsOfBranches
  | [] => by rw [unions, branches]; rfl
  | u :: rest => by
      rw [unions, branches, union_eq_text u, unions_eq_texts rest]
      cases g.branch u with
      | error fault => rfl
      | ok b => cases g.branches rest <;> rfl

end

end Grammar

/-! ## Lists of one length -/

mutual

/-- The query selects so many columns, and so does every query that it is united with. -/
def Query.SelectsColumns (n : Nat) : Query → Prop
  | ⟨outline, _, _, _, unions⟩ =>
    outline.aggregate = none ∧ outline.columns.map List.length = some n
      ∧ AllSelectColumns n unions

def Source.SelectsColumns (n : Nat) : Source → Prop
  | .own q => q.SelectsColumns n
  | .shared _ | .other _ => False

def Union.SelectsColumns (n : Nat) : Union → Prop
  | ⟨source, _⟩ => source.SelectsColumns n

def AllSelectColumns (n : Nat) : List Union → Prop
  | [] => True
  | u :: rest => u.SelectsColumns n ∧ AllSelectColumns n rest

end

namespace Grammar

variable {g : Grammar} {n : Nat}

theorem length_of_mapM {α β : Type} {f : α → Except Fault β} {as : List α} {bs : List β}
    (h : as.mapM f = .ok bs) : bs.length = as.length := by
  induction as generalizing bs with
  | nil => cases h; rfl
  | cons a as ih =>
      rw [List.mapM_cons] at h
      obtain ⟨b, -, h⟩ := ok_of_bind h
      obtain ⟨rest, hrest, h⟩ := ok_of_bind h
      cases h
      exact congrArg (· + 1) (ih hrest)

theorem length_selectItems {o : Outline} (haggregate : o.aggregate = none)
    (hcolumns : o.columns.map List.length = some n) {items : List String}
    (h : g.selectItems o = .ok items) : items.length = n := by
  obtain ⟨columns, hsome, hlength⟩ := Option.map_eq_some_iff.mp hcolumns
  rw [selectItems, haggregate, hsome] at h
  exact (length_of_mapM h).trans hlength

theorem items_of_select {o : Outline} {joins : List Join} {conditions havings : List Condition}
    {s : Select} (h : g.select o joins conditions havings = .ok s) :
    g.selectItems o = .ok s.items := by
  rw [select] at h
  obtain ⟨items, hitems, h⟩ := ok_of_bind h
  obtain ⟨parts, -, h⟩ := ok_of_bind h
  cases h
  exact hitems

mutual

theorem length_of_mem_lists : {q : Query} → q.SelectsColumns n → {w : Compound} →
    g.compound q = .ok w → ∀ items ∈ w.lists, items.length = n
  | ⟨outline, joins, conditions, havings, unions⟩, hq, w, h => by
      rw [Query.SelectsColumns] at hq
      rw [compound] at h
      obtain ⟨first, hfirst, h⟩ := ok_of_bind h
      obtain ⟨others, hothers, h⟩ := ok_of_bind h
      obtain ⟨tail, -, h⟩ := ok_of_bind h
      cases h
      rw [Compound.lists, List.forall_mem_cons]
      exact ⟨length_selectItems hq.1 hq.2.1 (items_of_select hfirst),
        length_of_mem_listsOfBranches hq.2.2 hothers⟩

theorem length_of_mem_listsOfSource : {s : Source} → s.SelectsColumns n → {w : Compound} →
    g.compoundOfSource s = .ok w → ∀ items ∈ w.lists, items.length = n
  | .own q, hq, w, h => by
      rw [Source.SelectsColumns] at hq
      rw [compoundOfSource] at h
      exact length_of_mem_lists hq h
  | .shared _, hq, _, _ | .other _, hq, _, _ => by rw [Source.SelectsColumns] at hq; cases hq

theorem length_of_mem_listsOfUnion : {u : Union} → u.SelectsColumns n → {b : Branch} →
    g.branch u = .ok b → ∀ items ∈ b.lists, items.length = n
  | ⟨source, all⟩, hu, b, h => by
      rw [Union.SelectsColumns] at hu
      rw [branch] at h
      obtain ⟨statement, hstatement, h⟩ := ok_of_bind h
      cases h
      exact length_of_mem_listsOfSource hu hstatement

theorem length_of_mem_listsOfBranches : {us : List Union} → AllSelectColumns n us →
    {bs : List Branch} → g.branches us = .ok bs → ∀ items ∈ listsOfBranches bs, items.length = n
  | [], _, bs, h => by rw [branches] at h; cases h; simp [listsOfBranches]
  | u :: rest, hus, bs, h => by
      rw [AllSelectColumns] at hus
      rw [branches] at h
      obtain ⟨b, hb, h⟩ := ok_of_bind h
      obtain ⟨more, hmore, h⟩ := ok_of_bind h
      cases h
      rw [listsOfBranches, List.forall_mem_append]
      exact ⟨length_of_mem_listsOfUnion hus.1 hb, length_of_mem_listsOfBranches hus.2 hmore⟩

end

end Grammar

/-! ## Functions over the rows -/

/-- The columns that a function is over; all when none are given. -/
def overColumns (columns : Argument) : Except Fault (List Value) :=
  if columns.isTruthy then columns.elements else .ok [.text "*"]

/-- The outline that asks for a function over the rows. A query that stands alone gives up its
columns. -/
def Outline.asking (function : String) (counted : List Value) (alone : Bool) (o : Outline) :
    Outline :=
  { o with
    columns := if alone then none else o.columns
    orders := []
    aggregate := some { function, columns := counted } }

theorem Query.aggregated_eq {q : Query} {function columns : Argument} {counted : List Value}
    (hover : overColumns columns = .ok counted) :
    q.aggregated function columns
      = .ok (q.updateOutline (·.asking function.text counted q.unions.isEmpty)) := by
  rw [overColumns] at hover
  unfold Query.aggregated
  split at hover
  · rename_i htruthy
    rw [if_pos htruthy, hover]
    rfl
  · rename_i htruthy
    cases hover
    rw [if_neg htruthy]
    rfl

namespace Grammar

variable {g : Grammar} {counted : List Value} {names : String}

theorem select_asking {o : Outline} {joins : List Join} {conditions havings : List Condition}
    {s : Select} (h : g.select o joins conditions havings = .ok s) (function : String)
    (hnames : g.columns counted = .ok names) (alone : Bool) :
    ∃ s', g.select (o.asking function counted alone) joins conditions havings = .ok s'
      ∧ s'.items = [called function o.distinct names] := by
  rw [select] at h
  obtain ⟨items, -, h⟩ := ok_of_bind h
  obtain ⟨parts, hparts, -⟩ := ok_of_bind h
  rw [selectParts] at hparts
  obtain ⟨fromTable, hfrom, h⟩ := ok_of_bind hparts
  obtain ⟨onJoins, hjoins, h⟩ := ok_of_bind h
  obtain ⟨wheres, hwheres, h⟩ := ok_of_bind h
  obtain ⟨grouping, hgrouping, h⟩ := ok_of_bind h
  obtain ⟨onGroups, hhavings, h⟩ := ok_of_bind h
  -- Only the orders are other ones, and without orders they cannot fail.
  have hitems : g.selectItems (o.asking function counted alone)
      = .ok [called function o.distinct names] := by
    simp only [selectItems, Outline.asking, hnames, ok_bind]
    rfl
  have hparts' : ∃ parts', g.selectParts (o.asking function counted alone) joins conditions havings
      = .ok parts' := by
    have hfrom' : g.fromTable (o.asking function counted alone) = .ok fromTable := hfrom
    have hgrouping' : g.grouping (o.asking function counted alone) = .ok grouping := hgrouping
    rw [selectParts, hfrom', hjoins, hwheres, hgrouping', hhavings]
    exact ⟨_, rfl⟩
  obtain ⟨parts', hparts'⟩ := hparts'
  rw [select, hitems, ok_bind, hparts']
  exact ⟨_, rfl, rfl⟩

theorem others_ne_nil {q : Query} (hunions : q.unions ≠ []) {whole : Compound}
    (h : g.compound q = .ok whole) : whole.others ≠ [] := by
  obtain ⟨o, joins, conditions, havings, unions⟩ := q
  obtain ⟨u, rest, rfl⟩ := List.exists_cons_of_ne_nil hunions
  rw [compound, branches] at h
  obtain ⟨first, -, h⟩ := ok_of_bind h
  obtain ⟨others, hothers, h⟩ := ok_of_bind h
  obtain ⟨tail, -, h⟩ := ok_of_bind h
  obtain ⟨b, -, hothers⟩ := ok_of_bind hothers
  obtain ⟨more, -, hothers⟩ := ok_of_bind hothers
  cases hothers
  cases h
  exact List.cons_ne_nil _ _

/-- A function over the rows takes the place of the first select list, and of no other. -/
theorem compound_asking {q : Query} {whole : Compound} (h : g.compound q = .ok whole)
    (function : String) (hnames : g.columns counted = .ok names) (alone : Bool) :
    ∃ sent, g.compound (q.updateOutline (·.asking function counted alone)) = .ok sent
      ∧ sent.others = whole.others ∧ sent.tail = whole.tail
      ∧ sent.first.items = [called function q.outline.distinct names] := by
  obtain ⟨o, joins, conditions, havings, unions⟩ := q
  rw [compound] at h
  obtain ⟨first, hfirst, h⟩ := ok_of_bind h
  obtain ⟨others, hothers, h⟩ := ok_of_bind h
  obtain ⟨tail, htail, h⟩ := ok_of_bind h
  cases h
  obtain ⟨first', hfirst', hitems⟩ := select_asking hfirst function hnames alone
  have htail' : g.tailBehind others (o.asking function counted alone) = .ok tail := htail
  refine ⟨⟨first', others, tail⟩, ?_, rfl, rfl, hitems⟩
  rw [Query.updateOutline, compound, hfirst', ok_bind, hothers, ok_bind, htail', ok_bind]
  rfl

theorem bindings_updateOutline (q : Query) (change : Outline → Outline) :
    (q.updateOutline change).bindings = q.bindings := by
  cases q
  rw [Query.updateOutline, Query.bindings, Query.bindings]

/-- Behind a first list are lists of one length: all are of one length only if it is theirs. -/
theorem lengths_eq_iff {first : List String} {others : List (List String)} (hne : others ≠ [])
    (hothers : ∀ items ∈ others, items.length = n) :
    (∀ items ∈ first :: others, ∀ items' ∈ first :: others, items.length = items'.length)
      ↔ n = first.length := by
  constructor
  · intro h
    obtain ⟨items, hitems⟩ := List.exists_mem_of_ne_nil others hne
    rw [← hothers items hitems]
    exact h items (List.mem_cons_of_mem _ hitems) first List.mem_cons_self
  · rintro rfl items hitems items' hitems'
    have hall : ∀ items ∈ first :: others, items.length = first.length :=
      List.forall_mem_cons.mpr ⟨rfl, hothers⟩
    rw [hall items hitems, hall items' hitems']

theorem listsOfBranches_ne_nil {bs : List Branch} (h : bs ≠ []) : listsOfBranches bs ≠ [] := by
  obtain ⟨b, rest, rfl⟩ := List.exists_cons_of_ne_nil h
  obtain ⟨all, first, others, tail⟩ := b
  rw [listsOfBranches, Branch.lists, Compound.lists]
  exact List.cons_ne_nil _ _

/-- A function over the rows of a union is called in the first select alone. It is sent with the
values of the union, and all that stands behind the first select stays; so where all of the union
select the same number of columns, what is sent does too only if they select one. -/
theorem aggregate_in_first_select {q : Query} (hunions : q.unions ≠ [])
    (hq : q.SelectsColumns n) {whole : Compound} (hwhole : g.compound q = .ok whole)
    (function columns : Argument) (hover : overColumns columns = .ok counted)
    (hnames : g.columns counted = .ok names) :
    g.query q = .ok whole.text ∧ (∀ items ∈ whole.lists, items.length = n)
      ∧ ∃ asked sent, q.aggregated function columns = .ok asked ∧ g.compound asked = .ok sent
        ∧ Terminal.aggregate.plan g q [function, columns] = .ok (.read sent.text q.bindings)
        ∧ sent.others = whole.others ∧ sent.tail = whole.tail
        ∧ sent.first.items = [called function.text q.outline.distinct names]
        ∧ ((∀ items ∈ sent.lists, ∀ items' ∈ sent.lists, items.length = items'.length)
          ↔ n = 1) := by
  have hlengths := length_of_mem_lists hq hwhole
  obtain ⟨sent, hsent, hothers, htail, hfirst⟩ :=
    compound_asking hwhole function.text hnames q.unions.isEmpty
  refine ⟨by rw [query_eq_text, hwhole]; rfl, hlengths, _, sent, Query.aggregated_eq hover, hsent,
    ?_, hothers, htail, hfirst, ?_⟩
  · rw [Terminal.plan, Query.aggregated_eq hover, ok_bind, Query.reading, query_eq_text, hsent,
      bindings_updateOutline]
    rfl
  · obtain ⟨first, others, tail⟩ := whole
    obtain ⟨first', others', tail'⟩ := sent
    cases hothers
    rw [Compound.lists, List.forall_mem_cons] at hlengths
    have hone : first'.items.length = 1 := congrArg List.length hfirst
    rw [Compound.lists, ← hone]
    exact lengths_eq_iff (listsOfBranches_ne_nil (others_ne_nil hunions hwhole)) hlengths.2

theorem aggregate_in_first_select_nested :
    let outline (table : String) : Outline :=
      { table := .text table, columns := some [.text "a", .text "b"] }
    let inner : Query :=
      { outline := outline "u", unions := [⟨.own { outline := outline "v" }, true⟩] }
    let q : Query := { outline := outline "t", unions := [⟨.own inner, false⟩] }
    let select (table : String) : Select :=
      ⟨false, ["\x60a\x60", "\x60b\x60"], ["from \x60" ++ table ++ "\x60"]⟩
    let whole : Compound :=
      ⟨select "t", [⟨false, ⟨select "u", [⟨true, ⟨select "v", [], ""⟩⟩], ""⟩⟩], ""⟩
    (q.unions ≠ [] ∧ q.SelectsColumns 2 ∧ Grammar.compound {} q = .ok whole)
      ∧ (∀ items ∈ whole.lists, items.length = 2)
      ∧ ∃ sent : Compound,
        Terminal.aggregate.plan {} q [.value (.text "max"), .value (.list [.text "a"])]
            = .ok (.read sent.text q.bindings)
          ∧ sent.others = whole.others
          ∧ sent.first.items = ["max(\x60a\x60) as aggregate"]
          ∧ ¬∀ items ∈ sent.lists, ∀ items' ∈ sent.lists, items.length = items'.length := by
  intro outline inner q select whole
  have hunions : q.unions ≠ [] := List.cons_ne_nil _ _
  have hq : q.SelectsColumns 2 := by
    simp [q, inner, outline, Query.SelectsColumns, AllSelectColumns, Union.SelectsColumns,
      Source.SelectsColumns]
  have hwhole : Grammar.compound {} q = .ok whole := by
    simp only [q, inner, outline, compound, branches, branch, compoundOfSource]
    rfl
  obtain ⟨-, hlengths, asked, sent, -, -, hplan, hothers, -, hfirst, hone⟩ :=
    aggregate_in_first_select hunions hq hwhole (.value (.text "max"))
      (.value (.list [.text "a"])) rfl rfl
  exact ⟨⟨hunions, hq, hwhole⟩, hlengths, sent, hplan, hothers, hfirst,
    fun heven => absurd (hone.mp heven) (by decide)⟩

/-- Behind a count of all rows in the first select, the second one still has its two columns. -/
theorem count_beside_columns :
    let outline (table : String) : Outline :=
      { table := .text table, columns := some [.text "a", .text "b"] }
    let q : Query :=
      { outline := outline "t", unions := [⟨.own { outline := outline "u" }, false⟩] }
    q.SelectsColumns 2 ∧ ∃ asked sent,
      q.aggregated (.value (.text "count")) (.value (.list [.text "*"])) = .ok asked
        ∧ Grammar.query {} asked = .ok ("(select count(*) as aggregate from \x60t\x60) union "
          ++ "(select \x60a\x60, \x60b\x60 from \x60u\x60)")
        ∧ Grammar.compound {} asked = .ok sent ∧ sent.lists.map List.length = [1, 2] := by
  intro outline q
  have hq : q.SelectsColumns 2 := by
    simp [q, outline, Query.SelectsColumns, AllSelectColumns, Union.SelectsColumns,
      Source.SelectsColumns]
  have hsent : Grammar.compound {}
      (q.updateOutline (·.asking "count" [.text "*"] false)) = .ok
        ⟨⟨false, ["count(*) as aggregate"], ["from \x60t\x60"]⟩,
          [⟨false, ⟨⟨false, ["\x60a\x60", "\x60b\x60"], ["from \x60u\x60"]⟩, [], ""⟩⟩], ""⟩ := by
    simp only [q, outline, Query.updateOutline, compound, branches, branch, compoundOfSource]
    rfl
  refine ⟨hq, _, _, Query.aggregated_eq rfl, ?_, hsent, ?_⟩
  · rw [query_eq_text]
    refine (congrArg (Except.map Compound.text) hsent).trans ?_
    simp only [Except.map, Compound.text, textsOfBranches, Branch.text]
    rfl
  · simp only [Compound.lists, listsOfBranches, Branch.lists]
    rfl

end Grammar

end QueryClient
