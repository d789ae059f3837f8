import QueryClient.Proofs.Query.CompileAndBind
import QueryClient.Query.Filter

/-!
# What a group binds

A group keeps the whole query that a callback has filled in, but only the conditions of that query
are written between its parentheses. A group binds what it shows exactly when the rest of the query
holds no values; otherwise it binds more.
-/

namespace QueryClient

open Sql (Inert)

namespace Group

variable {g : Grammar} {members : Group}

/-- A group never binds fewer values than its text has placeholders, and as many exactly when it is
tight. -/
theorem placeholderCount_iff (hg : g.disabled = []) (h : members.WellWritten g) {vs : List Value}
    (hvs : members.bindings = .ok vs) (boolean : String) :
    ∃ text, g.condition (.group boolean members) = .ok text
      ∧ Sql.placeholderCount .code text.toList ≤ vs.length
      ∧ (vs.length = Sql.placeholderCount .code text.toList ↔ members.Tight) := by
  obtain ⟨ts, _, ws, outs, hts, -, -, hchained, hcovers⟩ := group_follows hg members h
  have haligned := (hchained.sequenced.inert_append (s := "(") (by decide)).append_inert (t := ")")
    (by decide)
  obtain ⟨hle, htight⟩ := hcovers.bounded vs hvs
  refine ⟨_, by rw [Grammar.condition_group, hts]; rfl, ?_⟩
  rw [haligned.count]
  refine ⟨hle, htight, fun ht => ?_⟩
  rw [hcovers.exact ht, Except.ok.injEq] at hvs
  rw [hvs]

end Group

namespace Conditions

theorem exists_of_addNested {host : Host} {callback : Argument} {boolean : String}
    {cs cs' : List Condition} (h : addNested host callback boolean cs = .ok cs') :
    ∃ fresh members, host.group? [] = some fresh ∧ host.filled callback fresh = .ok members
      ∧ cs' = addGroup boolean members cs := by
  unfold addNested at h
  cases hfresh : host.group? [] with
  | none => rw [hfresh] at h; cases h
  | some fresh =>
      rw [hfresh] at h
      obtain ⟨members, hmembers, h⟩ := ok_of_bind h
      cases h
      exact ⟨fresh, members, rfl, hmembers, rfl⟩

/-- A callback alone stands for a group. -/
theorem add_callback (host : Host) (onQuery : Query → Outcome Query)
    (onJoin : Bool → Join → Outcome Join) (value : Argument) (boolean : String)
    (cs : List Condition) :
    add host (.callback onQuery onJoin) .missing value boolean cs
      = .ofResult cs (addNested host (.callback onQuery onJoin) boolean cs) := rfl

theorem result_ofResult {σ : Type} (before : σ) (result : Except Fault σ) :
    (Outcome.ofResult before result).result = result := by
  cases result <;> rfl

/-- Whatever a callback does, the group that it leaves binds at least as many values as its text has
placeholders, and as many exactly when nothing outside of its conditions holds a value. -/
theorem callback_group_binds (tablePrefix : String) {host : Host}
    {onQuery : Query → Outcome Query} {onJoin : Bool → Join → Outcome Join} (value : Argument)
    {boolean : String} {cs cs' : List Condition}
    (h : addNested host (.callback onQuery onJoin) boolean cs = .ok cs'
      ∨ (add host (.callback onQuery onJoin) .missing value boolean cs).result = .ok cs') :
    ∃ fresh members, host.group? [] = some fresh
      ∧ host.filled (.callback onQuery onJoin) fresh = .ok members
      ∧ cs' = addGroup boolean members cs
      ∧ ∀ vs, members.WellWritten { tablePrefix } →
        (Condition.group boolean members).bindings = .ok vs →
        ∃ text, Grammar.condition { tablePrefix } (.group boolean members) = .ok text
          ∧ Sql.placeholderCount .code text.toList ≤ vs.length
          ∧ (vs.length = Sql.placeholderCount .code text.toList
            ↔ (Condition.group boolean members).Tight) := by
  rw [add_callback, result_ofResult, or_self] at h
  obtain ⟨fresh, members, hfresh, hmembers, hcs⟩ := exists_of_addNested h
  refine ⟨fresh, members, hfresh, hmembers, hcs, fun vs hw hvs => ?_⟩
  rw [Condition.bindings] at hvs
  rw [Condition.Tight]
  exact members.placeholderCount_iff rfl hw hvs boolean

/-- A group with a list and a group of its own. -/
theorem callback_group_binds_conditions :
    let inner : Query := { Query.on (.text "t") with
      conditions := [.compare "and" (.text "b") "<" (.int 3)] }
    let conditions : List Condition :=
      [.among "and" (.text "a") [.int 1, .raw (.text "now()"), .int 2] false,
        .group "or" (.query inner)]
    let members : Group := .query { Query.on (.text "t") with conditions }
    addNested (.query (.text "t"))
        (.callback (fun q => .done { q with conditions }) fun _ j => .done j) "and" []
        = .ok [.group "and" members]
      ∧ members.WellWritten {}
      ∧ (Condition.group "and" members).bindings = .ok [.int 1, .int 2, .int 3]
      ∧ Grammar.condition {} (.group "and" members) = .ok "(`a` in (?, now(), ?) or (`b` < ?))"
      ∧ (Condition.group "and" members).Tight := by
  intro inner conditions members
  have hadded : addNested (.query (.text "t"))
      (.callback (fun q => .done { q with conditions }) fun _ j => .done j) "and" []
      = .ok [.group "and" members] := rfl
  have hw : members.WellWritten {} := by
    simp only [members, conditions, inner, Group.WellWritten, WellWrittenConditions,
      Condition.WellWritten, and_true]
    decide
  have hwritten : Grammar.condition {} (.group "and" members)
      = .ok "(`a` in (?, now(), ?) or (`b` < ?))" := by
    have ha : Grammar.column {} (.text "a") = .ok "`a`" := rfl
    have hb : Grammar.column {} (.text "b") = .ok "`b`" := rfl
    have hnested : Grammar.condition {} (.group "or" (.query inner)) = .ok "(`b` < ?)" := by
      rw [Grammar.condition_group]
      simp only [inner, Grammar.condition, Grammar.group, Grammar.conditions, hb, ok_bind]
      rfl
    rw [Grammar.condition_group]
    simp only [members, conditions, Grammar.group, Grammar.conditions, hnested, ok_bind]
    simp only [Grammar.condition, ha, ok_bind, Grammar.checkKind, Condition.kind, Condition.boolean]
    rfl
  obtain ⟨fresh, left, hfresh, hleft, -, hbinds⟩ :=
    callback_group_binds "" .missing (.inl hadded)
  cases hfresh
  cases hleft
  obtain ⟨text, htext, -, htight⟩ := hbinds [.int 1, .int 2, .int 3] hw rfl
  obtain rfl := Except.ok.inj (hwritten.symm.trans htext)
  exact ⟨hadded, hw, rfl, hwritten, htight.mp (by decide)⟩

/-- A condition on groups in a callback is bound but not written. -/
theorem callback_group_binds_more :
    let conditions : List Condition := [.compare "and" (.text "a") "=" (.int 1)]
    let havings : List Condition := [.compare "and" (.text "b") ">" (.int 2)]
    let members : Group := .query { Query.on (.text "t") with conditions, havings }
    addNested (.query (.text "t"))
        (.callback (fun q => .done { q with conditions, havings }) fun _ j => .done j) "and" []
        = .ok [.group "and" members]
      ∧ members.WellWritten {}
      ∧ (Condition.group "and" members).bindings = .ok [.int 1, .int 2]
      ∧ Grammar.condition {} (.group "and" members) = .ok "(`a` = ?)"
      ∧ Sql.placeholderCount .code "(`a` = ?)".toList = 1 := by
  intro conditions havings members
  refine ⟨rfl, ?_, rfl, ?_, by decide⟩
  · simp only [members, conditions, Group.WellWritten, WellWrittenConditions, Condition.WellWritten,
      and_true]
    decide
  · rw [Grammar.condition_group]
    rfl

end Conditions

end QueryClient
