import QueryClient.Proofs.Query.Additions
import QueryClient.Proofs.Query.Visible

/-!
# Conditions of groups

A filter adds the same to the conditions of every group, be it a query or a join: what is added
depends neither on the conditions that there are nor on what the group belongs to. Only a group in
the group is filled in by a callback that may tell the two apart.
-/

namespace QueryClient

namespace Outcome

variable {σ τ υ : Type}

theorem within_within (o : Outcome σ) (put : σ → τ) (put' : τ → υ) :
    (o.within put).within put' = o.within (put' ∘ put) := rfl

theorem result_within (o : Outcome σ) (put : σ → τ) :
    (o.within put).result = o.result.map put := by
  unfold result within
  cases o.fault <;> rfl

/-- Changes that look alike go on alike. -/
theorem within_andThen {o : Outcome σ} {o' : Outcome τ} {next : σ → Outcome σ}
    {next' : τ → Outcome τ} {look : σ → υ} {look' : τ → υ} (h : o.within look = o'.within look')
    (hnext : ∀ s t, look s = look' t → (next s).within look = (next' t).within look') :
    (o.andThen next).within look = (o'.andThen next').within look' := by
  obtain ⟨s, fault⟩ := o
  obtain ⟨t, fault'⟩ := o'
  obtain ⟨hstate, rfl⟩ : look s = look' t ∧ fault = fault' := by simpa [within] using h
  cases fault with
  | none => exact hnext s t hstate
  | some fault => exact h

theorem within_ofResult (before : σ) (e : Except Fault σ) (put : σ → τ) :
    (ofResult before e).within put = ofResult (put before) (e.map put) := by
  cases e <;> rfl

end Outcome

/-! ## Owners of conditions -/

namespace Group

/-- Who owns the conditions of the group. -/
def host : Group → Host
  | .query q => q.host
  | .join j => j.host true

/-- The group with other conditions. -/
def put (m : Group) (cs : List Condition) : Group :=
  match m with
  | .query q => .query { q with conditions := cs }
  | .join j => .join { j with conditions := cs }

/-- A group without conditions that belongs where this one does. -/
def fresh : Group → Group
  | .query q => .query (.on q.outline.table)
  | .join j => .join { kind := j.kind, table := j.table }

theorem group?_host (m : Group) (cs : List Condition) :
    m.host.group? cs = some (m.fresh.put cs) := by
  cases m <;> rfl

theorem put_fresh_nil (m : Group) : m.fresh.put [] = m.fresh := by
  cases m <;> rfl

theorem visible_put (m : Group) (cs : List Condition) :
    (m.put cs).visible = m.visible.put (visibleConditions cs) := by
  cases m with
  | query q => cases q; rfl
  | join j => cases j; rfl

theorem conditions_visible (m : Group) : m.visible.conditions = visibleConditions m.conditions := by
  cases m with
  | query q => cases q; rfl
  | join j => cases j; rfl

/-- Nothing of what a new group belongs to is visible. -/
theorem visible_put_fresh (m : Group) (cs : List Condition) :
    (m.fresh.put cs).visible = .query { conditions := visibleConditions cs } := by
  cases m <;> rfl

/-- Inner queries are made alike in all groups. -/
theorem source_host (m m' : Group) : m.host.source = m'.host.source := by
  funext a
  cases m <;> cases m' <;> cases a <;> rfl

end Group

namespace Host

theorem filled_of_not_callback {a : Argument} (h : a.isCallback = false) (host : Host)
    (fresh : Group) : host.filled a fresh = .error .wrongKind := by
  cases a with
  | value v | entries pairs | query source => rfl
  | callback onQuery onJoin => cases h

end Host

/-! ## What a filter adds is put behind -/

namespace Conditions

variable {host : Host} {column operator value values first second callback query : Argument}
  {boolean function : String} {negated : Bool} (m : Group) (cs : List Condition)

theorem addComparison_append :
    addComparison host column operator value boolean cs
      = (addComparison host column operator value boolean []).map (cs ++ ·) := by
  unfold addComparison
  cases prepared operator value with
  | error fault => rfl
  | ok made =>
      obtain ⟨named, v⟩ := made
      simp only [ok_bind]
      split
      · cases host.source _ <;> rfl
      · cases host.source _ <;> rfl
      · split
        · rfl
        · split <;> rfl
      · rfl

theorem addSql_append :
    addSql first values boolean cs = (addSql first values boolean []).map (cs ++ ·) := by
  unfold addSql
  cases values.rawValues <;> rfl

theorem addColumns_append :
    addColumns first operator second boolean cs
      = (addColumns first operator second boolean []).map (cs ++ ·) := by
  unfold addColumns
  cases prepared operator second <;> rfl

theorem addAmong_append :
    addAmong host column values boolean negated cs
      = (addAmong host column values boolean negated []).map (cs ++ ·) := by
  unfold addAmong
  split
  · cases host.source _ <;> rfl
  · cases host.source _ <;> rfl
  · cases values.elements <;> rfl

theorem addBetween_append :
    addBetween column values boolean negated cs
      = (addBetween column values boolean negated []).map (cs ++ ·) := by
  unfold addBetween
  cases values.elements with
  | error fault => rfl
  | ok vs =>
      simp only [ok_bind]
      split <;> rfl

theorem addDatePart_append :
    addDatePart function column operator value boolean cs
      = (addDatePart function column operator value boolean []).map (cs ++ ·) := by
  unfold addDatePart
  cases prepared operator value <;> rfl

theorem addExistence_append :
    addExistence host query boolean negated cs
      = (addExistence host query boolean negated []).map (cs ++ ·) := by
  unfold addExistence
  cases host.source query <;> rfl

theorem addGroup_append (members : Group) :
    addGroup boolean members cs = cs ++ addGroup boolean members [] := by
  unfold addGroup
  split
  · exact (List.append_nil cs).symm
  · rfl

theorem addNested_append :
    addNested host callback boolean cs = (addNested host callback boolean []).map (cs ++ ·) := by
  unfold addNested
  cases host.group? [] with
  | none => rfl
  | some fresh =>
      simp only
      cases host.filled callback fresh with
      | error fault => rfl
      | ok members => exact congrArg Except.ok (addGroup_append cs members)

theorem addDictionary_host (pairs : List (Value × Argument)) :
    addDictionary m.host pairs boolean cs
      = .ofResult cs ((addEntries m.host pairs []).result.map fun inner =>
        addGroup boolean (m.fresh.put inner) cs) := by
  have howned : addDictionary m.host pairs boolean cs
      = .ofResult cs (do
          let inner ← (addEntries m.host pairs []).result
          (m.host.group? inner).elim (throw .ownerlessGroup) fun members =>
            return addGroup boolean members cs) := by
    cases m <;> rfl
  rw [howned]
  cases (addEntries m.host pairs []).result with
  | error fault => rfl
  | ok inner =>
      rw [ok_bind, Group.group?_host]
      rfl

end Conditions

open Conditions

/-- A filter puts what it adds behind the conditions that there are, and goes wrong or not whatever
these are. -/
theorem Filter.apply_append (m : Group) (cs : List Condition) (filter : Filter)
    (arguments : List Argument) :
    filter.apply m.host cs arguments = (filter.apply m.host [] arguments).within (cs ++ ·) := by
  have hresult {e e' : Except Fault (List Condition)} (h : e = e'.map (cs ++ ·)) :
      Outcome.ofResult cs e = (Outcome.ofResult [] e').within (cs ++ ·) := by
    rw [Outcome.within_ofResult, List.append_nil, h]
  unfold apply
  split
  · unfold Conditions.add
    split
    · rw [addDictionary_host, addDictionary_host]
      refine hresult ?_
      cases (addEntries m.host _ []).result with
      | error fault => rfl
      | ok inner => exact congrArg Except.ok (addGroup_append cs _)
    · refine hresult ?_
      split
      · split
        · exact addNested_append cs
        · exact addComparison_append cs
      · exact addComparison_append cs
  · exact hresult (addSql_append cs)
  · exact hresult (addColumns_append cs)
  · exact hresult (addAmong_append cs)
  · rfl
  · exact hresult (addBetween_append cs)
  · exact hresult (addDatePart_append cs)
  · exact hresult (addNested_append cs)
  · exact hresult (addExistence_append cs)
  · rw [Outcome.within, Outcome.failed, Outcome.failed, List.append_nil]

/-! ## What a filter adds is the same for all groups -/

/-- The callback that fills in a group, when the filter is one with a group. -/
def Filter.groupCallback? : Filter → List Argument → Option Argument
  | .add, [column, operator, _, _] =>
    if column.isCallback && operator.isMissing then some column else none
  | .nested, [callback, _] => if callback.isCallback then some callback else none
  | _, _ => none

/-- A callback fills in the groups of two groups alike. -/
def Argument.FillsAlike (m m' : Group) (callback : Argument) : Prop :=
  (m.host.filled callback m.fresh).map Group.visible
    = (m'.host.filled callback m'.fresh).map Group.visible

namespace Conditions

variable {m m' : Group} {callback : Argument} {boolean : String}

theorem addComparison_host (m m' : Group) : addComparison m.host = addComparison m'.host := by
  funext column operator value boolean cs
  unfold addComparison
  rw [Group.source_host m m']

theorem addEntries_host (m m' : Group) (pairs : List (Value × Argument)) (cs : List Condition) :
    addEntries m.host pairs cs = addEntries m'.host pairs cs := by
  induction pairs generalizing cs with
  | nil => rfl
  | cons e rest ih =>
      have hrest : addEntries m.host rest = addEntries m'.host rest := funext ih
      simp only [addEntries, addComparison_host m m', hrest]

/-- Groups that show the same are added or left out alike. -/
theorem addGroup_visible {members members' : Group} (h : members.visible = members'.visible)
    (boolean : String) :
    visibleConditions (addGroup boolean members [])
      = visibleConditions (addGroup boolean members' []) := by
  have hconditions : visibleConditions members.conditions
      = visibleConditions members'.conditions := by
    rw [← Group.conditions_visible, ← Group.conditions_visible, h]
  rcases addGroup_eq boolean members [] with ⟨hnil, heq⟩ | ⟨hne, heq⟩
  · rcases addGroup_eq boolean members' [] with ⟨-, heq'⟩ | ⟨hne', -⟩
    · rw [heq, heq']
    · rw [hnil] at hconditions
      exact absurd (visibleConditions_eq_nil.mp hconditions.symm) hne'
  · rcases addGroup_eq boolean members' [] with ⟨hnil', -⟩ | ⟨-, heq'⟩
    · rw [hnil'] at hconditions
      exact absurd (visibleConditions_eq_nil.mp hconditions) hne
    · rw [heq, heq']
      simp only [List.nil_append, visibleConditions, Condition.visible, h]

theorem addNested_visible (h : callback.FillsAlike m m') (boolean : String) :
    (addNested m.host callback boolean []).map visibleConditions
      = (addNested m'.host callback boolean []).map visibleConditions := by
  unfold addNested
  rw [Group.group?_host, Group.group?_host, Group.put_fresh_nil, Group.put_fresh_nil]
  unfold Argument.FillsAlike at h
  simp only
  cases hfilled : m.host.filled callback m.fresh with
  | error fault =>
      cases hfilled' : m'.host.filled callback m'.fresh with
      | error fault' =>
          rw [hfilled, hfilled'] at h
          cases h
          rfl
      | ok members' =>
          rw [hfilled, hfilled'] at h
          cases h
  | ok members =>
      cases hfilled' : m'.host.filled callback m'.fresh with
      | error fault' =>
          rw [hfilled, hfilled'] at h
          cases h
      | ok members' =>
          rw [hfilled, hfilled'] at h
          exact congrArg Except.ok (addGroup_visible (Except.ok.inj h) boolean)

end Conditions

theorem Filter.apply_visible {m m' : Group} {filter : Filter} {arguments : List Argument}
    (hfill : ∀ callback, filter.groupCallback? arguments = some callback →
      callback.FillsAlike m m') :
    (filter.apply m.host [] arguments).within visibleConditions
      = (filter.apply m'.host [] arguments).within visibleConditions := by
  have hresult {e e' : Except Fault (List Condition)}
      (h : e.map visibleConditions = e'.map visibleConditions) :
      (Outcome.ofResult [] e).within visibleConditions
        = (Outcome.ofResult [] e').within visibleConditions := by
    rw [Outcome.within_ofResult, Outcome.within_ofResult, h]
  unfold apply
  split
  · rename_i column operator value boolean
    unfold Conditions.add
    split
    · rw [addDictionary_host, addDictionary_host, addEntries_host m m']
      refine hresult ?_
      cases (addEntries m'.host _ []).result with
      | error fault => rfl
      | ok inner =>
          refine congrArg Except.ok (addGroup_visible ?_ _)
          rw [Group.visible_put_fresh, Group.visible_put_fresh]
    · refine hresult ?_
      split
      · split
        · rename_i hmissing
          exact addNested_visible (hfill _ (by rw [groupCallback?, hmissing]; rfl)) _
        · rw [addComparison_host m m']
      · rw [addComparison_host m m']
  · rfl
  · rfl
  · unfold addAmong
    rw [Group.source_host m m']
  · rfl
  · rfl
  · rfl
  · rename_i callback boolean
    refine hresult (addNested_visible ?_ _)
    by_cases hcallback : callback.isCallback = true
    · exact hfill callback (by rw [groupCallback?, hcallback]; rfl)
    · have hno := Bool.eq_false_iff.mpr hcallback
      rw [Argument.FillsAlike, Host.filled_of_not_callback hno, Host.filled_of_not_callback hno]
  · unfold addExistence
    rw [Group.source_host m m']
  · rfl

/-- Groups that show the same still do after a filter has added something to both. -/
theorem Filter.changed_visible {m m' : Group} (h : m.visible = m'.visible) {filter : Filter}
    {arguments : List Argument}
    (hfill : ∀ callback, filter.groupCallback? arguments = some callback →
      callback.FillsAlike m m') :
    (filter.apply m.host m.conditions arguments).within (fun cs => (m.put cs).visible)
      = (filter.apply m'.host m'.conditions arguments).within fun cs => (m'.put cs).visible := by
  have hshown (m : Group) :
      (filter.apply m.host m.conditions arguments).within (fun cs => (m.put cs).visible)
        = ((filter.apply m.host [] arguments).within visibleConditions).within
            fun cs => m.visible.put (m.visible.conditions ++ cs) := by
    rw [apply_append, Outcome.within_within, Outcome.within_within]
    refine congrArg _ (funext fun cs => ?_)
    simp only [Function.comp_apply, Group.visible_put, visibleConditions_append,
      Group.conditions_visible]
  rw [hshown, hshown, apply_visible hfill, h]

end QueryClient
