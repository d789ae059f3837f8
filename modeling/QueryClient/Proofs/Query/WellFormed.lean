import QueryClient.Proofs.Query.Building
import QueryClient.Proofs.Query.Chain

/-!
# Well-formed queries

What holds of every query that clauses can build, at any depth: operators and functions are those of
the lists, no group is empty, and no bound is negative. A property of the values that columns are
compared with can be asked for on top.
-/

namespace QueryClient

/-! ## Groups -/

/-- A group that has conditions, and that shows in the text unless it has but one, of empty SQL. -/
structure Group.Filled (members : Group) : Prop where
  nonempty : members.conditions ≠ []
  shown {g : Grammar} {boolean : String}
    (h : g.condition (.group boolean members) = .ok "()") :
    ∃ word values, members.conditions = [.sql word "" values]

namespace Grammar

variable {g : Grammar}

/-- Only raw SQL can come to nothing. -/
theorem condition_eq_empty {c : Condition} (h : g.condition c = .ok "") :
    ∃ word values, c = .sql word "" values := by
  have done {t : String} (h : (pure t : Except Fault String) = .ok "") : t = "" := Except.ok.inj h
  cases c with
  | sql word text values =>
      simp only [condition, Except.ok.injEq] at h
      exact ⟨word, values, by rw [h]⟩
  | compare boolean column operator value =>
      rw [condition] at h
      obtain ⟨name, -, h⟩ := ok_of_bind h
      exact absurd (done h) (by simp)
  | among boolean column values negated =>
      rw [condition] at h
      split at h
      · cases negated <;> simp at h
      · obtain ⟨name, -, h⟩ := ok_of_bind h
        exact absurd (done h) (by simp)
  | group boolean members =>
      rw [condition] at h
      obtain ⟨parts, -, h⟩ := ok_of_bind h
      exact absurd (done h) (by simp)
  | isNull boolean column negated | between boolean column low high negated =>
      rw [condition] at h
      obtain ⟨name, -, h⟩ := ok_of_bind h
      cases negated <;> exact absurd (done h) (by simp)
  | datePart boolean function column operator value =>
      rw [condition] at h
      obtain ⟨name, -, h⟩ := ok_of_bind h
      exact absurd (done h) (by simp)
  | existence boolean source negated =>
      rw [condition] at h
      obtain ⟨rows, -, h⟩ := ok_of_bind h
      exact absurd (done h) (by simp)
  | amongRows boolean column source negated =>
      rw [condition] at h
      obtain ⟨name, -, h⟩ := ok_of_bind h
      obtain ⟨rows, -, h⟩ := ok_of_bind h
      exact absurd (done h) (by simp)
  | compareRow boolean column operator source =>
      rw [condition] at h
      obtain ⟨rows, -, h⟩ := ok_of_bind h
      obtain ⟨name, -, h⟩ := ok_of_bind h
      exact absurd (done h) (by simp)
  | compareColumns boolean first operator second =>
      rw [condition] at h
      obtain ⟨name, -, h⟩ := ok_of_bind h
      obtain ⟨other, -, h⟩ := ok_of_bind h
      exact absurd (done h) (by simp)

/-- A text that is but a word and a space has nothing behind its first space. -/
theorem eq_nil_of_startsWithWord {word boolean cs : List Char} (hword : ' ' ∉ word)
    (hstart : startsWithWord word (boolean ++ ' ' :: cs) = true)
    (hdrop : (boolean ++ ' ' :: cs).drop (word.length + 1) = []) : cs = [] := by
  have htake : (boolean ++ ' ' :: cs).take (word.length + 1) = boolean ++ ' ' :: cs :=
    List.take_of_length_le (List.drop_eq_nil_iff.mp hdrop)
  have hlower := eq_of_beq hstart
  rw [htake, List.map_append, List.map_cons] at hlower
  rcases List.eq_nil_or_concat cs with rfl | ⟨inner, last, rfl⟩
  · rfl
  · -- The space would stand inside the word.
    rw [List.concat_eq_append, List.map_append, List.map_singleton, ← List.cons_append,
      ← List.append_assoc] at hlower
    refine absurd ?_ hword
    rw [← (List.append_inj' hlower rfl).1]
    simp

theorem withoutLeadingBoolean_eq_empty {boolean s : String}
    (h : withoutLeadingBoolean (joined boolean s) = "") : s = "" := by
  have hlist : (joined boolean s).toList = boolean.toList ++ ' ' :: s.toList := by
    simp [joined]
  have hnil {word : List Char} {n : Nat} (hn : n = word.length + 1) (hword : ' ' ∉ word)
      (hstart : startsWithWord word (joined boolean s).toList = true)
      (hdrop : String.ofList ((joined boolean s).toList.drop n) = "") : s = "" := by
    subst hn
    rw [String.ofList_eq_empty_iff, hlist] at hdrop
    rw [hlist] at hstart
    exact String.toList_eq_nil_iff.mp (eq_nil_of_startsWithWord hword hstart hdrop)
  unfold withoutLeadingBoolean at h
  split at h
  · rename_i hand
    exact hnil rfl (by decide) hand h
  · split at h
    · rename_i hor
      exact hnil rfl (by decide) hor h
    · simp [joined] at h

theorem group_eq (g : Grammar) (members : Group) :
    g.group members = g.conditions members.conditions := by
  cases members with
  | query q =>
      obtain ⟨outline, joins, conditions, havings, unions⟩ := q
      rw [group, Group.conditions]
  | join j =>
      obtain ⟨kind, table, conditions⟩ := j
      rw [group, Group.conditions]

/-- A row of conditions comes to nothing only when it is one condition that does. -/
theorem conditions_sequenced_eq_empty {cs : List Condition} {parts : List String}
    (hne : cs ≠ []) (hparts : g.conditions cs = .ok parts) (h : sequenced parts = "") :
    ∃ c, cs = [c] ∧ g.condition c = .ok "" := by
  cases cs with
  | nil => exact absurd rfl hne
  | cons c rest =>
      rw [conditions] at hparts
      obtain ⟨-, -, hparts⟩ := ok_of_bind hparts
      obtain ⟨sql, hsql, hparts⟩ := ok_of_bind hparts
      obtain ⟨more, hmore, hparts⟩ := ok_of_bind hparts
      cases hparts
      rw [sequenced, join_joined] at h
      have hempty := withoutLeadingBoolean_eq_empty h
      cases rest with
      | nil =>
          rw [conditions] at hmore
          cases hmore
          exact ⟨c, rfl, by rwa [← show sql = "" from hempty]⟩
      | cons next rest =>
          rw [conditions] at hmore
          obtain ⟨-, -, hmore⟩ := ok_of_bind hmore
          obtain ⟨_, -, hmore⟩ := ok_of_bind hmore
          obtain ⟨_, -, hmore⟩ := ok_of_bind hmore
          cases hmore
          rw [Text.join_cons_cons] at hempty
          simp at hempty

end Grammar

/-- A group with conditions is empty in the text only when it has but one, of empty SQL. -/
theorem Group.filled_of_ne_nil {members : Group} (hne : members.conditions ≠ []) :
    members.Filled where
  nonempty := hne
  shown {g boolean} h := by
    rw [Grammar.condition_group, Grammar.group_eq] at h
    obtain ⟨parts, hparts, h⟩ := ok_of_bind h
    have hsequenced : Grammar.sequenced parts = "" := by
      have hinner : "(" ++ Grammar.sequenced parts ++ ")" = "(" ++ "" ++ ")" := Except.ok.inj h
      rwa [String.append_left_inj, String.append_right_inj] at hinner
    obtain ⟨c, hc, hempty⟩ := Grammar.conditions_sequenced_eq_empty hne hparts hsequenced
    obtain ⟨word, values, rfl⟩ := Grammar.condition_eq_empty hempty
    exact ⟨word, values, hc⟩

/-! ## Well-formed parts -/

/-- The functions that take a part of a date. -/
def dateFunctions : List String :=
  ["toDate", "toMonth", "toDayOfMonth", "toYear", "toTime"]

/-- The order is raw SQL or has one of the two directions. -/
def Order.WellFormed : Order → Prop
  | .by _ direction => direction.text = "asc" ∨ direction.text = "desc"
  | .sql _ => True

theorem Order.wellFormed : (order : Order) → order.WellFormed
  | .by _ .ascending => .inl rfl
  | .by _ .descending => .inr rfl
  | .sql _ => trivial

/-- Of the flat parts, orders have a direction and bounds are not negative. -/
structure Outline.WellFormed (o : Outline) : Prop where
  orders : ∀ order ∈ o.orders ++ o.unionOrders, order.WellFormed
  limit : ∀ n ∈ o.limit, 0 ≤ n
  offset : ∀ n ∈ o.offset, 0 ≤ n
  unionLimit : ∀ n ∈ o.unionLimit, 0 ≤ n
  unionOffset : ∀ n ∈ o.unionOffset, 0 ≤ n

/-- The condition alone is well-formed, and the value that it compares a column or a part of a date
with has a property. The two bounds of a range are there by its type. -/
def Condition.WellFormed (p : Value → Prop) : Condition → Prop
  | .compare _ _ operator value => operator ∈ operators ∧ p value
  | .datePart _ function _ operator value =>
    function ∈ dateFunctions ∧ operator ∈ operators ∧ p value
  | .compareRow _ _ operator _ | .compareColumns _ _ operator _ => operator ∈ operators
  | .group _ members => members.Filled
  | .sql .. | .among .. | .amongRows .. | .isNull .. | .between .. | .existence .. => True

/-- Every condition, every order and every bound is well-formed. -/
def Rule.wellFormed (p : Value → Prop) : Rule where
  condition := Condition.WellFormed p
  outline := Outline.WellFormed
  shared _ := True

variable {p : Value → Prop}

theorem wellFormed_allowsTables : (Rule.wellFormed p).AllowsTables := fun _ =>
  { orders := List.forall_mem_nil _
    limit := fun _ h => nomatch h
    offset := fun _ h => nomatch h
    unionLimit := fun _ h => nomatch h
    unionOffset := fun _ h => nomatch h }

/-! ## Resolved queries -/

variable {find : Nat → Source}

theorem Group.conditions_resolve (members : Group) :
    (members.resolve find).conditions = resolveConditions find members.conditions := by
  cases members with
  | query q =>
      obtain ⟨outline, joins, conditions, havings, unions⟩ := q
      rw [Group.resolve, Query.resolve]
      rfl
  | join j =>
      obtain ⟨kind, table, conditions⟩ := j
      rw [Group.resolve, Join.resolve]
      rfl

theorem Group.Filled.resolve {members : Group} (h : members.Filled) :
    (members.resolve find).Filled := by
  refine Group.filled_of_ne_nil ?_
  rw [Group.conditions_resolve]
  have hne := h.nonempty
  cases hcs : members.conditions with
  | nil => exact absurd hcs hne
  | cons c cs => exact List.cons_ne_nil _ _

theorem Condition.WellFormed.resolve {c : Condition} (h : c.WellFormed p) :
    (c.resolve find).WellFormed p := by
  cases c with
  | group boolean members =>
      rw [Condition.resolve]
      exact Group.Filled.resolve h
  | compareRow boolean column operator source =>
      rw [Condition.resolve]
      exact h
  | amongRows boolean column source negated | existence boolean source negated =>
      rw [Condition.resolve]
      trivial
  | sql | compare | among | isNull | between | datePart | compareColumns =>
      simpa only [Condition.resolve] using h

theorem wellFormed_resolves (h : ∀ id, (find id).Obeys (.wellFormed p)) :
    (Rule.wellFormed p).Resolves find :=
  ⟨fun _ hc => hc.resolve, fun id _ => h id⟩

/-! ## What is compared -/

/-- What a column is compared with, or the columns of a dictionary; a callback alone is a group. -/
def Conditions.comparands (column operator value : Argument) : List Argument :=
  match column.entries? with
  | some pairs => pairs.map fun e => compared (.value (.text "=")) e.2
  | none => if column.isCallback && operator.isMissing then [] else [compared operator value]

/-- What a verb compares columns with where NULL and inner queries are told from values. -/
def Verb.comparands : Verb → List Argument → List Argument
  | .filter .add, [column, operator, value, _] => Conditions.comparands column operator value
  | .join, [_, first, operator, second, _, byValue] =>
    if byValue.isTruthy && !first.isCallback && !first.opaqueValue.isNull then
      Conditions.comparands first operator second
    else []
  | _, _ => []

/-- What a verb compares columns or parts of dates with, whatever it is. -/
def Verb.bareComparands : Verb → List Argument → List Argument
  | .filter (.datePart _), [_, operator, value, _] => [compared operator value]
  | .having, [_, operator, value, _] => [compared operator value]
  | _, _ => []

/-- Where values are told from NULL and inner queries, those that are compared have a property. -/
def Argument.Fits (p : Value → Prop) (a : Argument) : Prop :=
  a.isRows = false → a ≠ .value .null → p a.opaqueValue

/-- The verb sets no part directly, and the date function is one of the list. -/
def Verb.isOrdinary : Verb → Bool
  | .setPart _ => false
  | .filter (.datePart function) => dateFunctions.contains function
  | _ => true

section

variable {host : Host} {column operator value callback : Argument} {boolean : String}
  {c : Condition} {verb : Verb} {arguments : List Argument}

theorem Compares.wellFormed (h : Compares host column operator value boolean c)
    (hp : (compared operator value).Fits p) : c.WellFormed p := by
  cases h with
  | rows h hv hs => exact (prepared_eq_ok h).1
  | null h negated => trivial
  | value h hv hnull =>
      obtain ⟨hoperator, rfl, -⟩ := prepared_eq_ok h
      exact ⟨hoperator, hp hv hnull⟩

theorem Nests.wellFormed (h : Nests host callback boolean c) : c.WellFormed p := by
  cases h with
  | group hfresh h hne => exact Group.filled_of_ne_nil hne

theorem Adds.wellFormed {filter : Filter} (h : Adds host filter arguments c)
    (hfilter : (Verb.filter filter).isOrdinary = true)
    (hcompared : ∀ x ∈ (Verb.filter filter).comparands arguments, x.Fits p)
    (hbare : ∀ x ∈ (Verb.filter filter).bareComparands arguments, p x.opaqueValue) :
    c.WellFormed p := by
  cases h with
  | compare hcolumn hgroup h =>
      refine h.wellFormed (hcompared _ ?_)
      rw [Verb.comparands, Conditions.comparands, hcolumn]
      simp [hgroup]
  | callback h | nested h => exact h.wellFormed
  | entry hcolumn he h =>
      refine h.wellFormed (hcompared _ ?_)
      rw [Verb.comparands, Conditions.comparands, hcolumn]
      exact List.mem_map_of_mem he
  | entries hcolumn hinner hmembers hne => exact Group.filled_of_ne_nil hne
  | columns h => exact (prepared_eq_ok h).1
  | datePart h =>
      obtain ⟨hoperator, rfl, -⟩ := prepared_eq_ok h
      rw [Verb.isOrdinary, List.contains_iff_mem] at hfilter
      exact ⟨hfilter, hoperator, hbare _ List.mem_cons_self⟩
  | sql | among | amongRows | isNull | between | existence => trivial

theorem Verb.CanAdd.on_wellFormed (h : Verb.on.CanAdd arguments c) : c.WellFormed p := by
  cases h with
  | onGroup h | onColumns h =>
      exact h.wellFormed rfl (List.forall_mem_nil _) (List.forall_mem_nil _)

theorem Argument.isNull_opaqueValue {a : Argument} (h : a ≠ .value .null) :
    a.opaqueValue.isNull = false := by
  cases a with
  | value v =>
      cases v with
      | null => exact absurd rfl h
      | _ => rfl
  | entries pairs | callback onQuery onJoin | query source => rfl

theorem Verb.CanAdd.wellFormed (h : verb.CanAdd arguments c) (hverb : verb.isOrdinary = true)
    (hcompared : ∀ x ∈ verb.comparands arguments, x.Fits p)
    (hbare : ∀ x ∈ verb.bareComparands arguments, p x.opaqueValue) : c.WellFormed p := by
  cases h with
  | filter h => exact h.wellFormed hverb hcompared hbare
  | onGroup h | onColumns h =>
      exact h.wellFormed rfl (List.forall_mem_nil _) (List.forall_mem_nil _)
  | joinValue hby hfirst hnull h =>
      rw [Verb.comparands, hby, hfirst, Argument.isNull_opaqueValue hnull] at hcompared
      exact h.wellFormed rfl hcompared (List.forall_mem_nil _)
  | joinOn h => exact h.on_wellFormed
  | having h =>
      obtain ⟨hoperator, rfl, -⟩ := prepared_eq_ok h
      exact ⟨hoperator, hbare _ List.mem_cons_self⟩
  | havingSql vs => trivial

end

/-! ## Orders and bounds -/

theorem Query.countOf_nonneg {name : String} {a : Argument} {n : Int}
    (h : countOf name a = .ok n) : 0 ≤ n := by
  obtain ⟨m, -, h⟩ := ok_of_bind h
  split at h
  · cases h
  · rename_i hm
    cases h
    exact Int.not_lt.mp hm

/-- The flat parts of the query are well-formed. -/
def Query.OutlineWellFormed (q : Query) : Prop :=
  q.outline.WellFormed

section

variable {q q' : Query} {a : Argument}

/-- A bound is not negative, whichever of two fields it goes to. -/
theorem Query.bounded_outline {name : String} {f f' : Int → Outline → Outline}
    (hq : q.OutlineWellFormed)
    (h : (countOf name a >>= fun n => .ok (q.updateOutline fun o =>
      if q.unions.isEmpty then f n o else f' n o)) = .ok q')
    (hf : ∀ (n : Int) (o : Outline), (∀ m ∈ some n, 0 ≤ m) → o.WellFormed → (f n o).WellFormed)
    (hf' : ∀ (n : Int) (o : Outline), (∀ m ∈ some n, 0 ≤ m) → o.WellFormed →
      (f' n o).WellFormed) : q'.OutlineWellFormed := by
  obtain ⟨n, hn, h⟩ := ok_of_bind h
  cases h
  have hbound : ∀ m ∈ some n, 0 ≤ m := by
    rintro m ⟨⟩
    exact countOf_nonneg hn
  simp only [OutlineWellFormed, updateOutline]
  split
  · exact hf n q.outline hbound hq
  · exact hf' n q.outline hbound hq

theorem Query.limit_outline (hq : q.OutlineWellFormed) (h : q.limit a = .ok q') :
    q'.OutlineWellFormed :=
  bounded_outline hq h (fun _ _ hbound ho => { ho with limit := hbound })
    fun _ _ hbound ho => { ho with unionLimit := hbound }

theorem Query.offset_outline (hq : q.OutlineWellFormed) (h : q.offset a = .ok q') :
    q'.OutlineWellFormed :=
  bounded_outline hq h (fun _ _ hbound ho => { ho with offset := hbound })
    fun _ _ hbound ho => { ho with unionOffset := hbound }

theorem Query.addOrder_outline (order : Order) (hq : q.OutlineWellFormed) :
    (q.addOrder order).OutlineWellFormed := by
  simp only [OutlineWellFormed, addOrder, updateOutline]
  split
  · exact { hq with orders := fun order _ => order.wellFormed }
  · exact { hq with orders := fun order _ => order.wellFormed }

theorem Verb.onQuery_outline {g : Grammar} {find : Nat → Source} {verb : Verb}
    {arguments : List Argument} (hverb : verb.isOrdinary = true) (hq : q.OutlineWellFormed) :
    (verb.onQuery g find q arguments).state.OutlineWellFormed := by
  unfold Verb.onQuery
  split
  · exact hq
  · exact { hq with }
  · exact { hq with }
  · exact { hq with }
  · exact { hq with }
  · exact { hq with }
  · refine Outcome.state_ofResult hq fun q' h => ?_
    obtain ⟨_, -, h⟩ := ok_of_bind h
    cases h
    exact hq
  · exact { hq with }
  · refine Outcome.state_ofResult hq fun q' h => ?_
    obtain ⟨_, -, h⟩ := ok_of_bind h
    cases h
    exact hq
  · refine Outcome.state_ofResult hq fun q' h => ?_
    obtain ⟨_, -, h⟩ := ok_of_bind h
    cases h
    exact hq
  · refine Outcome.state_ofResult hq fun q' h => ?_
    obtain ⟨_, -, h⟩ := ok_of_bind h
    cases h
    exact Query.addOrder_outline _ hq
  · exact Query.addOrder_outline _ hq
  · exact Outcome.state_ofResult hq fun _ => Query.limit_outline hq
  · exact Outcome.state_ofResult hq fun _ => Query.offset_outline hq
  · apply Outcome.state_andThen
    · refine Outcome.state_ofResult hq fun q' h => ?_
      obtain ⟨_, -, h⟩ := ok_of_bind h
      exact Query.offset_outline hq h
    · exact fun q' hq' => Outcome.state_ofResult hq' fun _ => Query.limit_outline hq'
  · refine Outcome.state_ofResult hq fun q' h => ?_
    obtain ⟨_, -, h⟩ := ok_of_bind h
    cases h
    exact hq
  · refine Outcome.state_ofResult hq fun q' h => ?_
    obtain ⟨_, -, h⟩ := ok_of_bind h
    cases h
    exact { hq with }
  · cases hverb
  · refine Outcome.state_ofResult hq fun q' h => ?_
    obtain ⟨_, -, h⟩ := ok_of_bind h
    cases h
    exact hq
  all_goals exact hq

/-- What an ordinary verb adds is well-formed when the values that it compares have the property. -/
theorem Verb.respects_wellFormed {verb : Verb} {arguments : List Argument}
    (hverb : verb.isOrdinary = true) (hcompared : ∀ x ∈ verb.comparands arguments, x.Fits p)
    (hbare : ∀ x ∈ verb.bareComparands arguments, p x.opaqueValue) :
    verb.Respects (.wellFormed p) arguments where
  condition _ h := h.wellFormed hverb hcompared hbare
  outline _ _ _ hq := verb.onQuery_outline hverb hq

end

end QueryClient
