import QueryClient.Query.Clause

/-!
# What filters add

A filter keeps the conditions that there are and adds others behind them. This module tells which:
a comparison, a group that is not empty, or a condition of the filter's own kind.
-/

namespace QueryClient

/-! ## Comparisons -/

theorem mem_operators {a : Argument} {named : String} (h : a.operator? = some named) :
    named ∈ operators := by
  unfold Argument.operator? at h
  split at h
  · simp only [List.contains_eq_mem, decide_eq_true_eq, Option.ite_none_right_eq_some,
      Option.some.injEq] at h
    obtain ⟨hmem, rfl⟩ := h
    exact hmem
  · cases h

/-- Of an operator and a value, the one that a column is compared with. -/
def compared (operator value : Argument) : Argument :=
  if value.isMissing || operator.operator?.isNone then operator else value

/-- A comparison has an operator of the list, and one with NULL has an operator for it. -/
theorem prepared_eq_ok {operator value v : Argument} {named : String}
    (h : prepared operator value = .ok (named, v)) :
    named ∈ operators ∧ v = compared operator value
      ∧ (v = .value .null → comparesNull named = true) := by
  have hequals : "=" ∈ operators := List.mem_cons_self
  unfold prepared at h
  split at h
  · rename_i hmissing
    cases h
    exact ⟨hequals, by rw [compared, hmissing, Bool.true_or, if_pos rfl], fun _ => rfl⟩
  · rename_i hmissing
    split at h
    · rename_i hnone
      cases h
      exact ⟨hequals, by rw [compared, hnone, Option.isNone_none, Bool.or_true, if_pos rfl],
        fun _ => rfl⟩
    · rename_i found hfound
      have hvalue : compared operator value = value := by
        rw [compared, hfound, Bool.eq_false_iff.mpr hmissing]
        rfl
      split at h
      · split at h
        · rename_i hnull
          cases h
          exact ⟨mem_operators hfound, hvalue.symm, fun _ => hnull⟩
        · cases h
      · rename_i hne
        cases h
        exact ⟨mem_operators hfound, hvalue.symm, fun hnull => absurd hnull hne⟩

/-- An argument that stands for the rows of a query. -/
def Argument.isRows : Argument → Bool
  | .callback .. | .query _ => true
  | .value _ | .entries _ => false

/-- A comparison of a column as a condition: with the rows of a query, with NULL, or with a
value. -/
inductive Compares (host : Host) (column operator value : Argument) (boolean : String) :
    Condition → Prop where
  | rows {named : String} {v : Argument} {source : Source}
      (h : prepared operator value = .ok (named, v)) (hv : v.isRows = true)
      (hs : host.source v = .ok source) :
      Compares host column operator value boolean
        (.compareRow boolean column.opaqueValue named source)
  | null {named : String} (h : prepared operator value = .ok (named, .value .null))
      (negated : Bool) :
      Compares host column operator value boolean (.isNull boolean column.opaqueValue negated)
  | value {named : String} {v : Argument} (h : prepared operator value = .ok (named, v))
      (hv : v.isRows = false) (hnull : v ≠ .value .null) :
      Compares host column operator value boolean
        (.compare boolean column.opaqueValue named v.opaqueValue)

namespace Conditions

variable {host : Host} {column operator value callback : Argument} {boolean : String}
  {cs cs' : List Condition}

theorem addComparison_eq_ok (h : addComparison host column operator value boolean cs = .ok cs') :
    ∃ c, cs' = cs ++ [c] ∧ Compares host column operator value boolean c := by
  obtain ⟨⟨named, v⟩, hprepared, h⟩ := ok_of_bind h
  simp only at h
  split at h
  · obtain ⟨source, hs, h⟩ := ok_of_bind h
    cases h
    exact ⟨_, rfl, .rows hprepared rfl hs⟩
  · obtain ⟨source, hs, h⟩ := ok_of_bind h
    cases h
    exact ⟨_, rfl, .rows hprepared rfl hs⟩
  · split at h
    · cases h
      exact ⟨_, rfl, .null hprepared false⟩
    · split at h
      · cases h
        exact ⟨_, rfl, .null hprepared true⟩
      · -- No other operator is prepared for NULL.
        rename_i hequals hdiffers
        have hnull := (prepared_eq_ok hprepared).2.2 rfl
        simp_all [comparesNull]
  · rename_i hcallback hquery hnull
    cases h
    refine ⟨_, rfl, .value hprepared ?_ hnull⟩
    cases v with
    | value v | entries pairs => rfl
    | callback onQuery onJoin => exact absurd rfl (hcallback onQuery onJoin)
    | query source => exact absurd rfl (hquery source)

/-- An equation for every entry of a dictionary, up to the first that cannot be made. -/
theorem exists_addEntries (host : Host) (pairs : List (Value × Argument)) (cs : List Condition) :
    ∃ added, (addEntries host pairs cs).state = cs ++ added
      ∧ ∀ c ∈ added, ∃ e ∈ pairs,
        Compares host (.value e.1) (.value (.text "=")) e.2 "and" c := by
  induction pairs generalizing cs with
  | nil => exact ⟨[], (List.append_nil cs).symm, List.forall_mem_nil _⟩
  | cons e rest ih =>
      obtain ⟨key, value⟩ := e
      rw [addEntries]
      cases hadded : addComparison host (.value key) (.value (.text "=")) value "and" cs with
      | error fault => exact ⟨[], (List.append_nil cs).symm, List.forall_mem_nil _⟩
      | ok cs' =>
          obtain ⟨c, rfl, hc⟩ := addComparison_eq_ok hadded
          obtain ⟨added, hstate, hall⟩ := ih (cs ++ [c])
          refine ⟨c :: added, hstate.trans (List.append_cons cs c added).symm, ?_⟩
          rw [List.forall_mem_cons]
          refine ⟨⟨_, List.mem_cons_self, hc⟩, fun c' hc' => ?_⟩
          obtain ⟨e, he, h⟩ := hall c' hc'
          exact ⟨e, List.mem_cons_of_mem _ he, h⟩

/-! ## Groups -/

theorem addGroup_eq (boolean : String) (members : Group) (cs : List Condition) :
    members.conditions = [] ∧ addGroup boolean members cs = cs
      ∨ members.conditions ≠ [] ∧ addGroup boolean members cs = cs ++ [.group boolean members] := by
  unfold addGroup
  split
  · rename_i h
    exact .inl ⟨List.isEmpty_iff.mp h, rfl⟩
  · rename_i h
    exact .inr ⟨fun hnil => h (List.isEmpty_iff.mpr hnil), rfl⟩

end Conditions

/-- A group with something in it, filled in by a callback. -/
inductive Nests (host : Host) (callback : Argument) (boolean : String) : Condition → Prop where
  | group {fresh members : Group} (hfresh : host.group? [] = some fresh)
      (h : host.filled callback fresh = .ok members) (hne : members.conditions ≠ []) :
      Nests host callback boolean (.group boolean members)

theorem Conditions.addNested_eq_ok {host : Host} {callback : Argument} {boolean : String}
    {cs cs' : List Condition} (h : addNested host callback boolean cs = .ok cs') :
    cs' = cs ∨ ∃ c, cs' = cs ++ [c] ∧ Nests host callback boolean c := by
  unfold addNested at h
  split at h
  · cases h
  · rename_i fresh hfresh
    obtain ⟨members, hmembers, h⟩ := ok_of_bind h
    cases h
    rcases addGroup_eq boolean members cs with ⟨-, heq⟩ | ⟨hne, heq⟩
    · exact .inl heq
    · exact .inr ⟨_, heq, .group hfresh hmembers hne⟩

/-! ## Filters -/

/-- The argument is a callback. -/
def Argument.isCallback : Argument → Bool
  | .callback .. => true
  | .value _ | .entries _ | .query _ => false

/-- A condition that a filter with the given arguments can add. -/
inductive Adds (host : Host) : Filter → List Argument → Condition → Prop where
  | compare {column operator value boolean : Argument} {c : Condition}
      (hcolumn : column.entries? = none)
      (hgroup : (column.isCallback && operator.isMissing) = false)
      (h : Compares host column operator value boolean.text c) :
      Adds host .add [column, operator, value, boolean] c
  | callback {column operator value boolean : Argument} {c : Condition}
      (h : Nests host column boolean.text c) : Adds host .add [column, operator, value, boolean] c
  /-- An equation of a dictionary, where no groups can be made. -/
  | entry {column operator value boolean : Argument} {pairs : List (Value × Argument)}
      {e : Value × Argument} {c : Condition} (hcolumn : column.entries? = some pairs)
      (he : e ∈ pairs) (h : Compares host (.value e.1) (.value (.text "=")) e.2 "and" c) :
      Adds host .add [column, operator, value, boolean] c
  /-- The equations of a dictionary as a group. -/
  | entries {column operator value boolean : Argument} {pairs : List (Value × Argument)}
      {inner : List Condition} {members : Group} (hcolumn : column.entries? = some pairs)
      (hinner : ∀ c ∈ inner, ∃ e ∈ pairs,
        Compares host (.value e.1) (.value (.text "=")) e.2 "and" c)
      (hmembers : host.group? inner = some members) (hne : members.conditions ≠ []) :
      Adds host .add [column, operator, value, boolean] (.group boolean.text members)
  | sql {text values boolean : Argument} (vs : List Value) :
      Adds host .sql [text, values, boolean] (.sql boolean.text text.text vs)
  | columns {first operator second boolean v : Argument} {named : String}
      (h : prepared operator second = .ok (named, v)) :
      Adds host .columns [first, operator, second, boolean]
        (.compareColumns boolean.text first.opaqueValue named v.opaqueValue)
  | among {column values boolean negated : Argument} (vs : List Value) :
      Adds host .among [column, values, boolean, negated]
        (.among boolean.text column.opaqueValue vs negated.isTruthy)
  | amongRows {column values boolean negated : Argument} {source : Source}
      (hs : host.source values = .ok source) :
      Adds host .among [column, values, boolean, negated]
        (.amongRows boolean.text column.opaqueValue source negated.isTruthy)
  | isNull {column boolean negated : Argument} :
      Adds host .isNull [column, boolean, negated]
        (.isNull boolean.text column.opaqueValue negated.isTruthy)
  | between {column values boolean negated : Argument} (low high : Value) :
      Adds host .between [column, values, boolean, negated]
        (.between boolean.text column.opaqueValue low high negated.isTruthy)
  | datePart {function : String} {column operator value boolean v : Argument} {named : String}
      (h : prepared operator value = .ok (named, v)) :
      Adds host (.datePart function) [column, operator, value, boolean]
        (.datePart boolean.text function column.opaqueValue named v.opaqueValue)
  | nested {callback boolean : Argument} {c : Condition} (h : Nests host callback boolean.text c) :
      Adds host .nested [callback, boolean] c
  | existence {query boolean negated : Argument} {source : Source}
      (hs : host.source query = .ok source) :
      Adds host .existence [query, boolean, negated]
        (.existence boolean.text source negated.isTruthy)

/-- One list of conditions continues another with conditions that a filter adds. -/
def Extends (host : Host) (filter : Filter) (arguments : List Argument)
    (cs cs' : List Condition) : Prop :=
  ∃ added, cs' = cs ++ added ∧ ∀ c ∈ added, Adds host filter arguments c

namespace Extends

variable {host : Host} {filter : Filter} {arguments : List Argument} {cs cs' : List Condition}

theorem refl (cs : List Condition) : Extends host filter arguments cs cs :=
  ⟨[], (List.append_nil cs).symm, List.forall_mem_nil _⟩

theorem concat {c : Condition} (h : Adds host filter arguments c) :
    Extends host filter arguments cs (cs ++ [c]) :=
  ⟨[c], rfl, List.forall_mem_singleton.mpr h⟩

theorem ofResult {e : Except Fault (List Condition)}
    (h : ∀ cs', e = .ok cs' → Extends host filter arguments cs cs') :
    Extends host filter arguments cs (Outcome.ofResult cs e).state := by
  cases e with
  | error fault => exact refl cs
  | ok cs' => exact h cs' rfl

theorem ofNested {callback : Argument} {boolean : String}
    (hadds : ∀ c, Nests host callback boolean c → Adds host filter arguments c)
    (h : Conditions.addNested host callback boolean cs = .ok cs') :
    Extends host filter arguments cs cs' := by
  rcases Conditions.addNested_eq_ok h with rfl | ⟨c, rfl, hc⟩
  · exact refl _
  · exact concat (hadds c hc)

end Extends

open Conditions

theorem Conditions.add_extends (host : Host) (cs : List Condition)
    (column operator value boolean : Argument) :
    Extends host .add [column, operator, value, boolean] cs
      (add host column operator value boolean.text cs).state := by
  unfold add
  split
  · rename_i pairs hpairs
    unfold addDictionary
    split
    · obtain ⟨added, hstate, hall⟩ := exists_addEntries _ pairs cs
      refine ⟨added, hstate, fun c hc => ?_⟩
      obtain ⟨e, he, h⟩ := hall c hc
      exact .entry hpairs he h
    · refine .ofResult fun cs' h => ?_
      obtain ⟨inner, hinner, h⟩ := ok_of_bind h
      obtain ⟨added, hstate, hall⟩ := exists_addEntries host pairs []
      rw [Outcome.state_of_result hinner, List.nil_append] at hstate
      subst hstate
      split at h
      · rename_i members hmembers
        cases h
        rcases addGroup_eq boolean.text members cs with ⟨-, heq⟩ | ⟨hne, heq⟩
        · rw [heq]
          exact .refl cs
        · rw [heq]
          exact .concat (.entries hpairs hall hmembers hne)
      · cases h
  · rename_i hcolumn
    refine .ofResult fun cs' h => ?_
    split at h
    · split at h
      · exact .ofNested (fun c => .callback) h
      · rename_i hgiven
        obtain ⟨c, rfl, hc⟩ := addComparison_eq_ok h
        exact .concat (.compare hcolumn (by rw [Bool.eq_false_iff.mpr hgiven, Bool.and_false]) hc)
    · rename_i hno
      obtain ⟨c, rfl, hc⟩ := addComparison_eq_ok h
      refine .concat (.compare hcolumn ?_ hc)
      cases column with
      | value v | entries pairs | query source => rfl
      | callback onQuery onJoin => exact absurd rfl (hno onQuery onJoin)

/-- A filter keeps the conditions that there are, also when it fails. -/
theorem Filter.apply_extends (host : Host) (cs : List Condition) (filter : Filter)
    (arguments : List Argument) :
    Extends host filter arguments cs (filter.apply host cs arguments).state := by
  unfold Filter.apply
  split
  · exact add_extends host cs _ _ _ _
  · refine .ofResult fun cs' h => ?_
    obtain ⟨vs, -, h⟩ := ok_of_bind h
    cases h
    exact .concat (.sql vs)
  · refine .ofResult fun cs' h => ?_
    obtain ⟨⟨named, v⟩, hprepared, h⟩ := ok_of_bind h
    cases h
    exact .concat (.columns hprepared)
  · refine .ofResult fun cs' h => ?_
    unfold addAmong at h
    split at h
    · obtain ⟨source, hs, h⟩ := ok_of_bind h
      cases h
      exact .concat (.amongRows hs)
    · obtain ⟨source, hs, h⟩ := ok_of_bind h
      cases h
      exact .concat (.amongRows hs)
    · obtain ⟨vs, -, h⟩ := ok_of_bind h
      cases h
      exact .concat (.among vs)
  · exact .concat .isNull
  · refine .ofResult fun cs' h => ?_
    obtain ⟨vs, -, h⟩ := ok_of_bind h
    split at h
    · cases h
      exact .concat (.between _ _)
    · cases h
  · refine .ofResult fun cs' h => ?_
    obtain ⟨⟨named, v⟩, hprepared, h⟩ := ok_of_bind h
    cases h
    exact .concat (.datePart hprepared)
  · exact .ofResult fun cs' h => .ofNested (fun c => .nested) h
  · refine .ofResult fun cs' h => ?_
    obtain ⟨source, hs, h⟩ := ok_of_bind h
    cases h
    exact .concat (.existence hs)
  · exact .refl cs

/-- A condition of a join is a group or a comparison of columns. -/
theorem Conditions.addOn_eq (host : Host) (cs : List Condition)
    (first operator second boolean : Argument) :
    Outcome.ofResult cs (addOn host first operator second boolean.text cs)
      = if first.isCallback then Filter.nested.apply host cs [first, boolean]
        else Filter.columns.apply host cs [first, operator, second, boolean] := by
  cases first <;> rfl

end QueryClient
