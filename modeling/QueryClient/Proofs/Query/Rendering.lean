import QueryClient.Proofs.Query.Assembly
import QueryClient.Proofs.Query.WellFormed

/-!
# How conditions read

Conditions in a row read one after the other with the word of each but the first between them, and
a group reads as its conditions in parentheses. Compiling puts every word in front, takes the first
one away again and cuts the word of a group off its text; what is left is this reading and nothing
else, whatever the conditions themselves begin with.
-/

namespace QueryClient

/-! ## Words between conditions -/

mutual

/-- The word in front of the condition is `and` or `or`, and so it is in groups to any depth. -/
def Condition.AndOr : Condition → Prop
  | .group boolean members => (boolean = "and" ∨ boolean = "or") ∧ members.AndOr
  | condition => condition.boolean = "and" ∨ condition.boolean = "or"

def Group.AndOr : Group → Prop
  | .query ⟨_, _, conditions, _, _⟩ => AndOrAll conditions
  | .join ⟨_, _, conditions⟩ => AndOrAll conditions

def AndOrAll : List Condition → Prop
  | [] => True
  | condition :: rest => condition.AndOr ∧ AndOrAll rest

end

theorem Condition.AndOr.boolean {c : Condition} (h : c.AndOr) :
    c.boolean = "and" ∨ c.boolean = "or" := by
  cases c with
  | group boolean members =>
      rw [Condition.AndOr] at h
      exact h.1
  | _ =>
      rw [Condition.AndOr] at h
      · exact h
      · exact fun _ _ h => by cases h

namespace Grammar

variable (g : Grammar)

/-! ## Reading conditions -/

mutual

/-- One condition as it reads. -/
def renderOne : Condition → Except Fault String
  | .group _ members => do return "(" ++ (← renderGroup members) ++ ")"
  | condition => g.condition condition

def renderGroup : Group → Except Fault String
  | .query ⟨_, _, conditions, _, _⟩ => render conditions
  | .join ⟨_, _, conditions⟩ => render conditions

/-- Conditions as they read. The word of the first one is left out. -/
def render : List Condition → Except Fault String
  | [] => .ok ""
  | condition :: rest => do
    g.checkKind condition
    let sql ← renderOne condition
    return sql ++ (← renderMore rest)

/-- Conditions behind others, each with its word between two spaces. -/
def renderMore : List Condition → Except Fault String
  | [] => .ok ""
  | condition :: rest => do
    g.checkKind condition
    let sql ← renderOne condition
    return " " ++ condition.boolean ++ " " ++ sql ++ (← renderMore rest)

end

theorem renderGroup_eq (members : Group) : g.renderGroup members = g.render members.conditions := by
  cases members with
  | query q => cases q; rw [renderGroup]; rfl
  | join j => cases j; rw [renderGroup]; rfl

/-! ## Taking away the first word -/

theorem withoutLeadingBoolean_joined_of_andOr {boolean : String}
    (h : boolean = "and" ∨ boolean = "or") (s : String) :
    withoutLeadingBoolean (joined boolean s) = s := by
  rcases h with rfl | rfl
  · have hlist : (joined "and" s).toList = 'a' :: 'n' :: 'd' :: ' ' :: s.toList := by simp [joined]
    rw [withoutLeadingBoolean, hlist, if_pos (by simp [startsWithWord])]
    exact String.ofList_toList
  · have hlist : (joined "or" s).toList = 'o' :: 'r' :: ' ' :: s.toList := by simp [joined]
    rw [withoutLeadingBoolean, hlist, if_neg (by simp [startsWithWord]),
      if_pos (by simp [startsWithWord])]
    exact String.ofList_toList

/-- Texts behind another one, each with a space in front of it. -/
def trailing (parts : List String) : String :=
  String.join (parts.map (" " ++ ·))

theorem trailing_cons (part : String) (parts : List String) :
    trailing (part :: parts) = " " ++ part ++ trailing parts := by
  rw [trailing, List.map_cons, String.join_cons, trailing]

theorem join_eq_trailing (part : String) (parts : List String) :
    Text.join " " (part :: parts) = part ++ trailing parts := by
  induction parts generalizing part with
  | nil => rw [Text.join_singleton, trailing, List.map_nil, String.join_nil, String.append_empty]
  | cons next parts ih => rw [Text.join_cons_cons, ih, trailing_cons, String.append_assoc,
      String.append_assoc]

theorem sequenced_joined {boolean : String} (h : boolean = "and" ∨ boolean = "or") (sql : String)
    (parts : List String) : sequenced (joined boolean sql :: parts) = sql ++ trailing parts := by
  rw [sequenced, join_joined, withoutLeadingBoolean_joined_of_andOr h, join_eq_trailing]

/-! ## Compiled conditions are what is read -/

section Compiled

variable {g}

-- One condition more, in front of conditions that are already known to be compiled as they read.
theorem map_sequenced_cons {c : Condition} {cs : List Condition} (hword : c.AndOr)
    (hc : g.condition c = g.renderOne c)
    (hcs : (g.conditions cs).map trailing = g.renderMore cs) :
    (g.conditions (c :: cs)).map sequenced = g.render (c :: cs) := by
  rw [conditions, render, ← hc, ← hcs]
  cases g.checkKind c with
  | error => rfl
  | ok =>
      cases g.condition c with
      | error => rfl
      | ok sql =>
          cases g.conditions cs with
          | error => rfl
          | ok parts => exact congrArg Except.ok (sequenced_joined hword.boolean sql parts)

theorem map_trailing_cons {c : Condition} {cs : List Condition}
    (hc : g.condition c = g.renderOne c)
    (hcs : (g.conditions cs).map trailing = g.renderMore cs) :
    (g.conditions (c :: cs)).map trailing = g.renderMore (c :: cs) := by
  rw [conditions, renderMore, ← hc, ← hcs]
  cases g.checkKind c with
  | error => rfl
  | ok =>
      cases g.condition c with
      | error => rfl
      | ok sql =>
          cases g.conditions cs with
          | error => rfl
          | ok parts =>
              refine congrArg Except.ok ?_
              rw [trailing_cons, joined]
              simp only [String.append_assoc]

mutual

theorem condition_eq_renderOne : (c : Condition) → c.AndOr → g.condition c = g.renderOne c
  | .group _ members, h => by
      rw [Condition.AndOr] at h
      rw [condition_group, renderOne, ← group_eq_renderGroup members h.2]
      cases g.group members <;> rfl
  | .sql .., _ | .compare .., _ | .among .., _ | .amongRows .., _ | .isNull .., _ | .between .., _
  | .datePart .., _ | .compareRow .., _ | .existence .., _ | .compareColumns .., _ => by
      simp only [renderOne]

theorem group_eq_renderGroup :
    (members : Group) → members.AndOr → (g.group members).map sequenced = g.renderGroup members
  | .query ⟨_, _, conditions, _, _⟩, h => by
      rw [Group.AndOr] at h
      rw [group, renderGroup]
      exact conditions_eq_render conditions h
  | .join ⟨_, _, conditions⟩, h => by
      rw [Group.AndOr] at h
      rw [group, renderGroup]
      exact conditions_eq_render conditions h

theorem conditions_eq_render :
    (cs : List Condition) → AndOrAll cs → (g.conditions cs).map sequenced = g.render cs
  | [], _ => by rw [conditions, render]; rfl
  | c :: rest, h => by
      rw [AndOrAll] at h
      exact map_sequenced_cons h.1 (condition_eq_renderOne c h.1)
        (conditions_eq_renderMore rest h.2)

theorem conditions_eq_renderMore :
    (cs : List Condition) → AndOrAll cs → (g.conditions cs).map trailing = g.renderMore cs
  | [], _ => by rw [conditions, renderMore]; rfl
  | c :: rest, h => by
      rw [AndOrAll] at h
      exact map_trailing_cons (condition_eq_renderOne c h.1) (conditions_eq_renderMore rest h.2)

end

theorem conditions_isEmpty {cs : List Condition} {parts : List String}
    (h : g.conditions cs = .ok parts) : parts.isEmpty = cs.isEmpty := by
  cases cs with
  | nil => rw [conditions] at h; cases h; rfl
  | cons c cs =>
      rw [conditions] at h
      obtain ⟨-, -, h⟩ := ok_of_bind h
      obtain ⟨sql, -, h⟩ := ok_of_bind h
      obtain ⟨more, -, h⟩ := ok_of_bind h
      cases h
      rfl

theorem map_introduced {cs : List Condition} (hne : cs ≠ []) (h : AndOrAll cs) (word : String) :
    (g.conditions cs).map (introduced word) = (g.render cs).map (word ++ " " ++ ·) := by
  rw [← conditions_eq_render cs h]
  cases hparts : g.conditions cs with
  | error => rfl
  | ok parts =>
      have hfull : ¬ parts.isEmpty = true := by
        rw [conditions_isEmpty hparts, List.isEmpty_iff]
        exact hne
      rw [Except.map, introduced, if_neg hfull]
      rfl

end Compiled

/-! ## Statements -/

/-- What conditions come to, as a part of a statement when there are any. -/
def partOf (cs : List Condition) (text : Except Fault String) : Except Fault (List String) :=
  if cs.isEmpty then .ok [] else do return [← text]

/-- The statement of a query from its clauses, the conditions on groups as they read. -/
def statement (q : Query) : Except Fault String := do
  let selection ← g.selection q.outline
  let fromTable ← g.fromTable q.outline
  let joins ← g.joins q.joins
  let wheres ← partOf q.conditions (g.wheres (.query q))
  let grouping ← g.grouping q.outline
  let havings ← partOf q.havings ((g.render q.havings).map ("having " ++ ·))
  let ordering ← g.ordering q.outline.orders
  let sql := Text.trim (Text.join " " (selection ++ fromTable
    ++ whenAny joins (Text.join " " joins) ++ wheres ++ grouping ++ havings ++ ordering
    ++ bound "limit" q.outline.limit ++ bound "offset" q.outline.offset))
  let unions ← g.unions q.unions
  if unions.isEmpty then return sql
  else
    let tail ← g.unionTail q.outline
    return "(" ++ sql ++ ") " ++ Text.trimStart (String.join unions ++ tail)

variable {g}

theorem map_bind {α β γ : Type} (x : Except Fault α) (f : α → β) (next : β → Except Fault γ) :
    (x.map f >>= next) = x >>= fun a => next (f a) := by
  cases x <;> rfl

theorem map_whenAny_introduced {cs : List Condition} (word : String) :
    (g.conditions cs).map (fun parts => whenAny parts (introduced word parts))
      = partOf cs ((g.conditions cs).map (introduced word)) := by
  cases cs with
  | nil => rw [conditions]; rfl
  | cons c cs =>
      cases hparts : g.conditions (c :: cs) with
      | error => rfl
      | ok parts =>
          have hfull : parts.isEmpty = false := conditions_isEmpty hparts
          rw [Except.map, whenAny, hfull, if_neg Bool.false_ne_true]
          rfl

theorem query_eq_statement {q : Query} (h : AndOrAll q.havings) : g.query q = g.statement q := by
  obtain ⟨outline, joins, conditions, havings, unions⟩ := q
  have hwheres : partOf conditions (g.wheres (.query ⟨outline, joins, conditions, havings, unions⟩))
      = (g.conditions conditions).map fun parts => whenAny parts (introduced "where" parts) := by
    rw [map_whenAny_introduced, wheres, group]
    rfl
  have hhavings : partOf havings ((g.render havings).map ("having " ++ ·))
      = (g.conditions havings).map fun parts => whenAny parts (introduced "having" parts) := by
    rw [map_whenAny_introduced]
    cases havings with
    | nil => rfl
    | cons c cs => rw [map_introduced (List.cons_ne_nil c cs) h]; rfl
  rw [query, statement, hwheres, hhavings]
  simp only [map_bind]
  rfl

theorem wheres_eq_render {members : Group} (hne : members.conditions ≠ [])
    (h : AndOrAll members.conditions) :
    g.wheres members = (g.render members.conditions).map (conjunction members ++ " " ++ ·) := by
  rw [← map_introduced hne h, wheres, group_eq]
  rfl

variable (g)

/-- Conditions joined with `and` and `or`, in groups to any depth, are written as they read: behind
`where` for a query, behind `on` for a join, in parentheses for a group, and behind `having` in the
statement. Where reading them fails, writing them fails alike. -/
theorem conditions_written_as_read :
    (∀ q : Query, q.conditions ≠ [] → AndOrAll q.conditions →
      g.wheres (.query q) = (g.render q.conditions).map ("where " ++ ·))
    ∧ (∀ j : Join, j.conditions ≠ [] → AndOrAll j.conditions →
      g.wheres (.join j) = (g.render j.conditions).map ("on " ++ ·))
    ∧ (∀ (boolean : String) (members : Group), members.AndOr →
      g.condition (.group boolean members)
        = (g.render members.conditions).map fun sql => "(" ++ sql ++ ")")
    ∧ ∀ q : Query, AndOrAll q.havings → g.query q = g.statement q := by
  refine ⟨fun q hne h => wheres_eq_render hne h, fun j hne h => wheres_eq_render hne h,
    fun boolean members h => ?_, fun q h => query_eq_statement h⟩
  rw [condition_group, ← renderGroup_eq, ← group_eq_renderGroup members h]
  cases g.group members <;> rfl

/-- Raw conditions that begin with the words between conditions, the first one in a group too. -/
theorem conditions_written_as_read_raw :
    let inner : List Condition := [.sql "or" "and y" [], .sql "and" "or z" []]
    let conditions : List Condition := [.sql "and" "or x" [],
      .group "or" (.join { kind := "inner", table := .text "u", conditions := inner })]
    let q : Query := { Query.on (.text "t") with conditions, havings := [.sql "or" "and n" []] }
    AndOrAll q.conditions ∧ AndOrAll q.havings
      ∧ Grammar.wheres {} (.query q) = .ok "where or x or (and y and or z)"
      ∧ Grammar.query {} q
        = .ok "select * from \x60t\x60 where or x or (and y and or z) having and n" := by
  intro inner conditions q
  have hconditions : AndOrAll q.conditions := by
    simp [q, conditions, inner, AndOrAll, Condition.AndOr, Group.AndOr, Condition.boolean]
  have hhavings : AndOrAll q.havings := by
    simp [q, AndOrAll, Condition.AndOr, Condition.boolean]
  obtain ⟨hwhere, -, -, hstatement⟩ := conditions_written_as_read {}
  have hwheres : Grammar.wheres {} (.query q) = .ok "where or x or (and y and or z)" := by
    rw [hwhere q (List.cons_ne_nil _ _) hconditions]
    simp only [q, conditions, inner, render, renderMore, renderOne, renderGroup, condition]
    rfl
  refine ⟨hconditions, hhavings, hwheres, ?_⟩
  rw [hstatement q hhavings, statement, hwheres]
  simp only [q, render, renderMore, renderOne, condition]
  rfl

end Grammar

end QueryClient
