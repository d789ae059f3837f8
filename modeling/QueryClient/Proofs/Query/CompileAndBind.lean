import QueryClient.Proofs.Query.Assembly
import QueryClient.Proofs.Query.Coverage

/-!
# Compiling and binding

Compiling a query and binding its values gives what compiling it with literals in their place gives.
The proof is one induction over the query, with one case for every kind of condition: the text of a
part is aligned with its result, for the values that its placeholders stand for, and the values that
the part binds cover these.
-/

namespace QueryClient

open Sql (Inert Aligned AlignedAll)

/-- A part and the same part with literals can both be written, the first text is aligned with the
second, and the values that the part binds cover its placeholders. -/
def Follows {ν α : Type} (compile : ν → Except Fault α) (inline : ν → Except Fault ν)
    (bindings : ν → Except Fault (List Value)) (tight : ν → Prop)
    (aligned : α → List Value → α → Prop) (part : ν) : Prop :=
  ∃ t part' vs out, compile part = .ok t ∧ inline part = .ok part' ∧ compile part' = .ok out
    ∧ aligned t vs out ∧ Covers vs (bindings part) (tight part)

/-! ## Values -/

theorem parameter_aligned {v : Value} (h : v.WellWritten) :
    Aligned (Grammar.parameter v) (boundValues [v]) (Grammar.parameter v.inlined) := by
  cases v with
  | raw inner => exact Inert.aligned (h rfl)
  | _ => exact Sql.aligned_placeholder _

theorem boundValues_cons (v : Value) (vs : List Value) :
    boundValues (v :: vs) = boundValues [v] ++ boundValues vs := by
  rw [← List.singleton_append, boundValues, boundValues, boundValues]
  exact List.filter_append [v] vs

theorem parameters_alignedAll {vs : List Value} (h : ∀ v ∈ vs, v.WellWritten) :
    AlignedAll (vs.map Grammar.parameter) (boundValues vs)
      ((vs.map Value.inlined).map Grammar.parameter) := by
  induction vs with
  | nil => exact .nil
  | cons v vs ih =>
      simp only [List.forall_mem_cons] at h
      rw [boundValues_cons]
      exact .cons (parameter_aligned h.1) (ih h.2)

theorem parameters_aligned {vs : List Value} (h : ∀ v ∈ vs, v.WellWritten) :
    Aligned (Grammar.parameters vs) (boundValues vs) (Grammar.parameters (vs.map Value.inlined)) :=
  (parameters_alignedAll h).join (by decide)

/-- Both bounds of a range are bound, raw SQL too. -/
theorem range_aligned (low high : Value) :
    Aligned "? and ?" [low, high] (Sql.literal low ++ " and " ++ Sql.literal high) :=
  ((Sql.aligned_placeholder low).append_inert (t := " and ") (by decide)).append
    (Sql.aligned_placeholder high)

/-- The operator of a range ends where its placeholders begin. -/
theorem range_condition_aligned {name : String} (h : Inert name.toList) (negated : Bool)
    (low high : Value) :
    Aligned (name ++ if negated then " not between ? and ?" else " between ? and ?") [low, high]
      (name ++ " " ++ (if negated then "not between" else "between") ++ " "
        ++ (Sql.literal low ++ " and " ++ Sql.literal high)) := by
  cases negated with
  | false =>
      have haligned := (range_aligned low high).inert_append
        (h.append_text (t := " between ") (by decide))
      simpa [String.append_assoc] using haligned
  | true =>
      have haligned := (range_aligned low high).inert_append
        (h.append_text (t := " not between ") (by decide))
      simpa [String.append_assoc] using haligned

/-- A list of values behind a column; without values the column is not written. -/
theorem among_aligned {boolean : String} {column : Value} {values : List Value} {negated : Bool}
    {g : Grammar} (hcolumn : values ≠ [] → IsInert (g.column column))
    (hvalues : ∀ v ∈ values, v.WellWritten) :
    ∃ t out, g.condition (.among boolean column values negated) = .ok t
      ∧ g.condition (.among boolean column (values.map Value.inlined) negated) = .ok out
      ∧ Aligned t (boundValues values) out := by
  cases values with
  | nil =>
      refine ⟨_, _, by rw [Grammar.condition]; rfl, by rw [Grammar.condition]; rfl, ?_⟩
      exact Inert.aligned (by cases negated <;> decide)
  | cons v rest =>
      obtain ⟨name, hname, hinert⟩ := hcolumn (List.cons_ne_nil _ _)
      refine ⟨_, _, by rw [Grammar.condition, hname]; rfl, by rw [Grammar.condition, hname]; rfl, ?_⟩
      refine ((parameters_aligned hvalues).inert_append (hinert.append_text ?_)).append_inert
        (by decide)
      cases negated <;> decide

/-! ## Conditions -/

theorem boolean_of_inlined {c c' : Condition} (h : c.inlined = .ok c') : c'.boolean = c.boolean := by
  cases c with
  | sql | amongRows | group | compareRow | existence =>
      rw [Condition.inlined] at h
      obtain ⟨part, -, h⟩ := ok_of_bind h
      cases h; rfl
  | compare | among | isNull | between | datePart | compareColumns =>
      rw [Condition.inlined] at h
      cases h; rfl

theorem boolean_inert {g : Grammar} {c : Condition} (h : c.WellWritten g) :
    Inert c.boolean.toList := by
  cases c with
  | isNull | between | group | existence | amongRows | compareRow | compare | sql | among | datePart
  | compareColumns => rw [Condition.WellWritten] at h; exact h.1

variable {g : Grammar}

/-- Orders and bounds of a union are written only when there is one. -/
theorem tail_of_unions {o : Outline} {unions : List Union} {us : List String}
    (hus : g.unions unions = .ok us)
    (h : unions ≠ [] → ∀ order ∈ o.unionOrders, order.WellWritten g) :
    ∃ tail, (us.isEmpty = false → g.unionTail o = .ok tail)
      ∧ (us.isEmpty = false → Inert tail.toList) := by
  cases unions with
  | nil =>
      rw [Grammar.unions] at hus
      cases hus
      exact ⟨"", fun hne => (by cases hne), fun hne => (by cases hne)⟩
  | cons u rest =>
      obtain ⟨tail, htail, hinert⟩ := g.unionTail_inert (h (List.cons_ne_nil _ _))
      exact ⟨tail, fun _ => htail, fun _ => hinert⟩

mutual

theorem condition_follows (hg : g.disabled = []) : (c : Condition) → c.WellWritten g →
    Follows g.condition Condition.inlined Condition.bindings Condition.Tight Aligned c
  | .sql boolean text values, h => by
      rw [Condition.WellWritten] at h
      obtain ⟨-, hclosed, hcount⟩ := h
      obtain ⟨out, hout, haligned⟩ := Sql.aligned_of_bind hclosed hcount
      refine ⟨text, .sql boolean out [], values, out, by rw [Grammar.condition], ?_,
        by rw [Grammar.condition], haligned, ?_⟩
      · rw [Condition.inlined, hout]; rfl
      · rw [Condition.bindings, Condition.Tight]; exact .ofValues values
  | .compare boolean column operator value, h => by
      rw [Condition.WellWritten] at h
      obtain ⟨-, ⟨name, hname, hinert⟩, hoperator, hvalue⟩ := h
      refine ⟨_, _, boundValues [value], _, by rw [Grammar.condition, hname]; rfl,
        by rw [Condition.inlined], by rw [Grammar.condition, hname]; rfl, ?_, ?_⟩
      · refine (parameter_aligned hvalue).inert_append ?_
        exact ((hinert.append_text (by decide)).append_text hoperator).append_text (by decide)
      · rw [Condition.bindings, Condition.Tight]; exact .ofValues _
  | .among boolean column values negated, h => by
      rw [Condition.WellWritten] at h
      obtain ⟨-, hcolumn, hvalues⟩ := h
      obtain ⟨t, out, ht, hout, haligned⟩ := among_aligned hcolumn hvalues
      refine ⟨t, _, boundValues values, out, ht, by rw [Condition.inlined], hout, haligned, ?_⟩
      rw [Condition.bindings, Condition.Tight]; exact .ofValues _
  | .amongRows boolean column source negated, h => by
      rw [Condition.WellWritten] at h
      obtain ⟨-, ⟨name, hname, hinert⟩, hsource⟩ := h
      obtain ⟨t, source', vs, out, ht, hin, hout, haligned, hcovers⟩ := source_follows hg source hsource
      refine ⟨_, .amongRows boolean column source' negated, vs, _,
        by rw [Grammar.condition, hname, ht]; rfl, by rw [Condition.inlined, hin]; rfl,
        by rw [Grammar.condition, hname, hout]; rfl, ?_, ?_⟩
      · refine (haligned.inert_append (hinert.append_text ?_)).append_inert (by decide)
        cases negated <;> decide
      · rwa [Condition.bindings, Condition.Tight]
  | .isNull boolean column negated, h => by
      rw [Condition.WellWritten] at h
      obtain ⟨-, name, hname, hinert⟩ := h
      refine ⟨_, _, [], _, by rw [Grammar.condition, hname]; rfl, by rw [Condition.inlined],
        by rw [Grammar.condition, hname]; rfl, ?_, ?_⟩
      · refine Inert.aligned (hinert.append_text ?_)
        cases negated <;> decide
      · rw [Condition.bindings, Condition.Tight]; exact .ofValues []
  | .between boolean column low high negated, h => by
      rw [Condition.WellWritten] at h
      obtain ⟨-, name, hname, hinert⟩ := h
      refine ⟨_, _, [low, high], _, by rw [Grammar.condition, hname]; rfl,
        by rw [Condition.inlined], by rw [Grammar.condition, hname]; rfl, ?_, ?_⟩
      · exact range_condition_aligned hinert negated low high
      · rw [Condition.bindings, Condition.Tight]; exact .ofValues _
  | .datePart boolean function column operator value, h => by
      rw [Condition.WellWritten] at h
      obtain ⟨-, hfunction, ⟨name, hname, hinert⟩, hoperator, hvalue⟩ := h
      refine ⟨_, _, boundValues [value], _, by rw [Grammar.condition, hname]; rfl,
        by rw [Condition.inlined], by rw [Grammar.condition, hname]; rfl, ?_, ?_⟩
      · refine (parameter_aligned hvalue).inert_append ?_
        have hcall := ((hfunction.append_text (t := "(") (by decide)).append_text hinert).append_text
          (t := ") ") (by decide)
        exact (hcall.append_text hoperator).append_text (by decide)
      · rw [Condition.bindings, Condition.Tight]; exact .ofValues _
  | .group boolean members, h => by
      rw [Condition.WellWritten] at h
      obtain ⟨ts, members', vs, outs, ht, hin, hout, hchained, hcovers⟩ :=
        group_follows hg members h.2
      refine ⟨_, .group boolean members', vs, _, by rw [Grammar.condition_group, ht]; rfl,
        by rw [Condition.inlined, hin]; rfl, by rw [Grammar.condition_group, hout]; rfl, ?_, ?_⟩
      · exact (hchained.sequenced.inert_append (by decide)).append_inert (by decide)
      · rwa [Condition.bindings, Condition.Tight]
  | .compareRow boolean column operator source, h => by
      rw [Condition.WellWritten] at h
      obtain ⟨-, ⟨name, hname, hinert⟩, hoperator, hsource⟩ := h
      obtain ⟨t, source', vs, out, ht, hin, hout, haligned, hcovers⟩ := source_follows hg source hsource
      refine ⟨_, .compareRow boolean column operator source', vs, _,
        by rw [Grammar.condition, ht, ok_bind, hname]; rfl, by rw [Condition.inlined, hin]; rfl,
        by rw [Grammar.condition, hout, ok_bind, hname]; rfl, ?_, ?_⟩
      · refine (haligned.inert_append ?_).append_inert (by decide)
        exact ((hinert.append_text (by decide)).append_text hoperator).append_text (by decide)
      · rwa [Condition.bindings, Condition.Tight]
  | .existence boolean source negated, h => by
      rw [Condition.WellWritten] at h
      obtain ⟨t, source', vs, out, ht, hin, hout, haligned, hcovers⟩ := source_follows hg source h.2
      refine ⟨_, .existence boolean source' negated, vs, _, by rw [Grammar.condition, ht]; rfl,
        by rw [Condition.inlined, hin]; rfl, by rw [Grammar.condition, hout]; rfl, ?_, ?_⟩
      · refine (haligned.inert_append ?_).append_inert (by decide)
        cases negated <;> decide
      · rwa [Condition.bindings, Condition.Tight]
  | .compareColumns boolean first operator second, h => by
      rw [Condition.WellWritten] at h
      obtain ⟨-, ⟨s, hs, hinert⟩, hoperator, ⟨s', hs', hinert'⟩⟩ := h
      refine ⟨_, _, [], _, by rw [Grammar.condition, hs, ok_bind, hs']; rfl,
        by rw [Condition.inlined], by rw [Grammar.condition, hs, ok_bind, hs']; rfl, ?_, ?_⟩
      · refine Inert.aligned (Inert.append_text ?_ hinert')
        exact ((hinert.append_text (by decide)).append_text hoperator).append_text (by decide)
      · rw [Condition.bindings, Condition.Tight]; exact .ofValues []

theorem group_follows (hg : g.disabled = []) : (members : Group) → members.WellWritten g →
    Follows g.group Group.inlined Group.bindings Group.Tight Chained members
  | .query ⟨outline, joins, conditions, havings, unions⟩, h => by
      rw [Group.WellWritten] at h
      obtain ⟨ts, conditions', vs, outs, ht, hin, hout, hchained, hcovers⟩ :=
        conditions_follow hg conditions h
      refine ⟨ts, .query ⟨outline, joins, conditions', havings, unions⟩, vs, outs,
        by rw [Grammar.group, ht], by rw [Group.inlined, hin]; rfl, by rw [Grammar.group, hout],
        hchained, ?_⟩
      rw [Group.bindings, Query.bindings_eq, Group.Tight]
      have hall := (((Covers.hidden (bindingsOfJoins joins)).append hcovers).append
        (Covers.hidden (bindingsOfConditions havings))).append
        (Covers.hidden (bindingsOfUnions unions))
      rw [List.nil_append, List.append_nil, List.append_nil] at hall
      exact hall.congr (by rw [and_assoc, and_assoc])
  | .join ⟨kind, table, conditions⟩, h => by
      rw [Group.WellWritten] at h
      obtain ⟨ts, conditions', vs, outs, ht, hin, hout, hchained, hcovers⟩ :=
        conditions_follow hg conditions h
      refine ⟨ts, .join ⟨kind, table, conditions'⟩, vs, outs, by rw [Grammar.group, ht],
        by rw [Group.inlined, hin]; rfl, by rw [Grammar.group, hout], hchained, ?_⟩
      rwa [Group.bindings, Join.bindings, Group.Tight]

theorem source_follows (hg : g.disabled = []) : (source : Source) → source.WellWritten g →
    Follows g.source Source.inlined Source.bindings Source.Tight Aligned source
  | .own q, h => by
      rw [Source.WellWritten] at h
      obtain ⟨t, q', vs, out, ht, hin, hout, haligned, hcovers⟩ := query_follows hg q h
      refine ⟨t, .own q', vs, out, by rw [Grammar.source, ht], by rw [Source.inlined, hin]; rfl,
        by rw [Grammar.source, hout], haligned, ?_⟩
      rwa [Source.bindings, Source.Tight]
  | .shared id, h => by rw [Source.WellWritten] at h; exact h.elim
  | .other v, h => by rw [Source.WellWritten] at h; exact h.elim

theorem join_follows (hg : g.disabled = []) : (j : Join) → j.WellWritten g →
    Follows g.join Join.inlined Join.bindings Join.Tight Aligned j
  | ⟨kind, table, conditions⟩, h => by
      rw [Join.WellWritten] at h
      obtain ⟨hkind, ⟨name, hname, hinert⟩, hconditions⟩ := h
      obtain ⟨ts, conditions', vs, outs, ht, hin, hout, hchained, hcovers⟩ :=
        conditions_follow hg conditions hconditions
      refine ⟨_, ⟨kind, table, conditions'⟩, vs, _, by rw [Grammar.join, hname, ok_bind, ht]; rfl,
        by rw [Join.inlined, hin]; rfl, by rw [Grammar.join, hname, ok_bind, hout]; rfl, ?_, ?_⟩
      · refine ((hchained.introduced (by decide)).inert_append ?_).trim
        exact ((hkind.append_text (by decide)).append_text hinert).append_text (by decide)
      · rwa [Join.bindings, Join.Tight]

theorem union_follows (hg : g.disabled = []) : (u : Union) → u.WellWritten g →
    Follows g.union Union.inlined Union.bindings Union.Tight Aligned u
  | ⟨source, all⟩, h => by
      rw [Union.WellWritten] at h
      obtain ⟨t, source', vs, out, ht, hin, hout, haligned, hcovers⟩ := source_follows hg source h
      refine ⟨_, ⟨source', all⟩, vs, _, by rw [Grammar.union, ht]; rfl,
        by rw [Union.inlined, hin]; rfl, by rw [Grammar.union, hout]; rfl, ?_, ?_⟩
      · refine (haligned.inert_append ?_).append_inert (by decide)
        cases all <;> decide
      · rwa [Union.bindings, Union.Tight]

theorem query_follows (hg : g.disabled = []) : (q : Query) → q.WellWritten g →
    Follows g.query Query.inlined Query.bindings Query.Tight Aligned q
  | ⟨outline, joins, conditions, havings, unions⟩, h => by
      rw [Query.WellWritten] at h
      obtain ⟨houtline, hj, hc, hh, hu, htail⟩ := h
      obtain ⟨flat, hflat⟩ := houtline.flatParts
      obtain ⟨js, joins', onJoins, js', hjs, hinj, hjs', halignedj, hcoversj⟩ := joins_follow hg joins hj
      obtain ⟨cs, conditions', onRows, cs', hcs, hinc, hcs', hchainedc, hcoversc⟩ :=
        conditions_follow hg conditions hc
      obtain ⟨hs, havings', onGroups, hs', hhs, hinh, hhs', hchainedh, hcoversh⟩ :=
        conditions_follow hg havings hh
      obtain ⟨us, unions', onUnions, us', hus, hinu, hus', halignedu, hcoversu⟩ :=
        unions_follow hg unions hu
      obtain ⟨tail, htail, hinert⟩ := tail_of_unions hus htail
      refine ⟨_, ⟨outline, joins', conditions', havings', unions'⟩,
        onJoins ++ onRows ++ onGroups ++ onUnions, _,
        Grammar.query_eq hflat hjs hcs hhs hus htail, ?_,
        Grammar.query_eq hflat hjs' hcs' hhs' hus' (halignedu.isEmpty_eq ▸ htail), ?_, ?_⟩
      · rw [Query.inlined, hinj, ok_bind, hinc, ok_bind, hinh, ok_bind, hinu]; rfl
      · exact Grammar.united_aligned (Grammar.assembled_aligned hflat halignedj hchainedc hchainedh)
          halignedu hinert
      · rw [Query.bindings_eq, Query.Tight]
        refine (((hcoversj.append hcoversc).append hcoversh).append hcoversu).congr ?_
        rw [and_assoc, and_assoc]

theorem conditions_follow (hg : g.disabled = []) : (cs : List Condition) →
    WellWrittenConditions g cs →
    Follows g.conditions inlinedConditions bindingsOfConditions TightConditions Chained cs
  | [], _ => ⟨[], [], [], [], by rw [Grammar.conditions], by rw [inlinedConditions],
      by rw [Grammar.conditions], .nil, by
        rw [bindingsOfConditions, TightConditions]; exact .ofValues []⟩
  | c :: rest, h => by
      rw [WellWrittenConditions] at h
      obtain ⟨t, c', vs, out, ht, hin, hout, haligned, hcovers⟩ := condition_follows hg c h.1
      obtain ⟨ts, rest', ws, outs, hts, hins, houts, hchained, hcovers'⟩ :=
        conditions_follow hg rest h.2
      have hkind : ∀ c : Condition, g.checkKind c = .ok () := by
        intro c; simp [Grammar.checkKind, hg]
      refine ⟨_, c' :: rest', vs ++ ws, _,
        by rw [Grammar.conditions, hkind, ok_bind, ht, ok_bind, hts]; rfl,
        by rw [inlinedConditions, hin, ok_bind, hins]; rfl,
        by rw [Grammar.conditions, hkind, ok_bind, hout, ok_bind, houts]; rfl, ?_, ?_⟩
      · rw [boolean_of_inlined hin]
        exact .cons (boolean_inert h.1) haligned hchained
      · rw [bindingsOfConditions_cons, TightConditions]
        exact hcovers.append hcovers'

theorem joins_follow (hg : g.disabled = []) : (js : List Join) → WellWrittenJoins g js →
    Follows g.joins inlinedJoins bindingsOfJoins TightJoins AlignedAll js
  | [], _ => ⟨[], [], [], [], by rw [Grammar.joins], by rw [inlinedJoins], by rw [Grammar.joins],
      .nil, by rw [bindingsOfJoins, TightJoins]; exact .ofValues []⟩
  | j :: rest, h => by
      rw [WellWrittenJoins] at h
      obtain ⟨t, j', vs, out, ht, hin, hout, haligned, hcovers⟩ := join_follows hg j h.1
      obtain ⟨ts, rest', ws, outs, hts, hins, houts, hall, hcovers'⟩ := joins_follow hg rest h.2
      refine ⟨t :: ts, j' :: rest', vs ++ ws, out :: outs,
        by rw [Grammar.joins, ht, ok_bind, hts]; rfl, by rw [inlinedJoins, hin, ok_bind, hins]; rfl,
        by rw [Grammar.joins, hout, ok_bind, houts]; rfl, .cons haligned hall, ?_⟩
      rw [bindingsOfJoins_cons, TightJoins]
      exact hcovers.append hcovers'

theorem unions_follow (hg : g.disabled = []) : (us : List Union) → WellWrittenUnions g us →
    Follows g.unions inlinedUnions bindingsOfUnions TightUnions AlignedAll us
  | [], _ => ⟨[], [], [], [], by rw [Grammar.unions], by rw [inlinedUnions],
      by rw [Grammar.unions], .nil, by rw [bindingsOfUnions, TightUnions]; exact .ofValues []⟩
  | u :: rest, h => by
      rw [WellWrittenUnions] at h
      obtain ⟨t, u', vs, out, ht, hin, hout, haligned, hcovers⟩ := union_follows hg u h.1
      obtain ⟨ts, rest', ws, outs, hts, hins, houts, hall, hcovers'⟩ := unions_follow hg rest h.2
      refine ⟨t :: ts, u' :: rest', vs ++ ws, out :: outs,
        by rw [Grammar.unions, ht, ok_bind, hts]; rfl,
        by rw [inlinedUnions, hin, ok_bind, hins]; rfl,
        by rw [Grammar.unions, hout, ok_bind, houts]; rfl, .cons haligned hall, ?_⟩
      rw [bindingsOfUnions_cons, TightUnions]
      exact hcovers.append hcovers'

end

/-! ## The whole way -/

/-- A query whose written parts are inert and whose groups show their values can be compiled, and
its values can be bound. The result is the query with literals in their place, unless raw SQL among
the values is empty or stands between white space. -/
theorem bind_query_eq_inline (tablePrefix : String) (q : Query) (hq : q.WellWritten { tablePrefix })
    (ht : q.Tight) :
    ∃ sql vs inlined bound, Grammar.query { tablePrefix } q = .ok sql ∧ q.bindings = .ok vs
      ∧ Grammar.inline { tablePrefix } q = .ok inlined ∧ Sql.bind sql (.list vs) = .ok bound
      ∧ ((∀ v ∈ vs, v.Compact) → bound = inlined) := by
  obtain ⟨sql, q', vs, inlined, hsql, hin, hinlined, haligned, hcovers⟩ := query_follows rfl q hq
  obtain ⟨bound, hbound, -⟩ := Sql.aligned_of_bind haligned.closed haligned.count
  refine ⟨sql, vs, inlined, bound, hsql, hcovers.exact ht, ?_, hbound, fun hv => ?_⟩
  · rw [Grammar.inline, hin]
    exact hinlined
  · rw [haligned.bind_eq hv, Except.ok.injEq] at hbound
    exact hbound.symm

theorem Outline.wellWritten_table {v : Value} (h : IsInert (g.table v)) :
    Outline.WellWritten g { table := v } where
  columns _ := by
    rw [Option.getD_none, List.forall_mem_singleton]
    exact ⟨"*", rfl, by decide⟩
  aggregate := by simp
  table _ := h
  groups := by simp
  orders := by simp

set_option maxRecDepth 2000 in
/-- A join with a value, a group, a condition on groups, and a union whose query has a range up to
raw SQL. -/
theorem bind_query_eq_inline_nested :
    let q : Query := {
      outline := { table := .text "t" }
      joins := [⟨"left", .text "u", [.compare "and" (.text "v") "=" (.text "it's ?")]⟩]
      conditions := [.group "and" (.query { Query.on (.text "t") with
        conditions := [.among "or" (.text "a") [.int 1, .raw (.text "now()")] false] })]
      havings := [.compare "and" (.text "k") ">" (.int 2)]
      unions := [⟨.own { Query.on (.text "z") with
        conditions := [.between "and" (.text "d") (.int (-1)) (.raw (.text "e")) false] }, true⟩] }
    let vs : List Value := [.text "it's ?", .int 1, .int 2, .int (-1), .raw (.text "e")]
    let completed := "(select * from `t` left join `u` on `v` = 'it\\'s ?' where (`a` in (1, now())) "
      ++ "having `k` > 2) union all (select * from `z` where `d` between -1 and e)"
    q.WellWritten {} ∧ q.Tight ∧ q.bindings = .ok vs ∧ (∀ v ∈ vs, v.Compact)
      ∧ ∃ sql, Grammar.query {} q = .ok sql ∧ Sql.bind sql (.list vs) = .ok completed := by
  intro q vs completed
  have hq : q.WellWritten {} := by
    have ht := Outline.wellWritten_table (g := {}) (v := .text "t") (by decide)
    have hz := Outline.wellWritten_table (g := {}) (v := .text "z") (by decide)
    simp only [q, Query.WellWritten, Join.WellWritten, Union.WellWritten, Source.WellWritten,
      Group.WellWritten, Condition.WellWritten, WellWrittenJoins, WellWrittenConditions,
      WellWrittenUnions, Query.on, List.not_mem_nil, false_imp_iff, implies_true, and_true, true_and]
    refine ⟨ht, ?_, ?_, ?_, hz, ?_⟩
    all_goals decide
  have ht : q.Tight := by
    simp only [q, Query.Tight, Join.Tight, Union.Tight, Source.Tight, Group.Tight, Condition.Tight,
      TightJoins, TightConditions, TightUnions, Query.on, and_true, true_and]
    exact ⟨rfl, rfl, rfl⟩
  have hbindings : q.bindings = .ok vs := rfl
  have hvs : ∀ v ∈ vs, v.Compact := by decide
  obtain ⟨sql, vs', inlined, bound, hsql, hvs', hinlined, hbound, heq⟩ :=
    bind_query_eq_inline "" q hq ht
  have hinline : Grammar.inline {} q = .ok completed := by decide +kernel
  obtain rfl := Except.ok.inj (hbindings.symm.trans hvs')
  obtain rfl := Except.ok.inj (hinline.symm.trans hinlined)
  exact ⟨hq, ht, hbindings, hvs, sql, hsql, heq hvs ▸ hbound⟩

/-- Empty raw SQL at the end of a range leaves a space behind when it is bound, which is trimmed
when it stands there from the beginning. A joining word with a question mark takes a value. -/
theorem bind_query_ne_inline :
    let q : Query := { Query.on (.text "t") with
      conditions := [.between "and" (.text "a") (.int 1) (.raw (.text "")) false] }
    let vs : List Value := [.int 1, .raw (.text "")]
    let q' : Query := { Query.on (.text "t") with
      conditions := [.compare "and" (.text "a") "=" (.int 1), .compare "?" (.text "b") "=" (.int 2)] }
    (q.WellWritten {} ∧ q.Tight ∧ q.bindings = .ok vs ∧ (∀ v ∈ vs, v.Trimmed)
      ∧ Grammar.query {} q = .ok "select * from `t` where `a` between ? and ?"
      ∧ Sql.bind "select * from `t` where `a` between ? and ?" (.list vs)
        = .ok "select * from `t` where `a` between 1 and "
      ∧ Grammar.inline {} q = .ok "select * from `t` where `a` between 1 and"
      ∧ Sql.bind "select * from `t` where `a` between ? and ?" (.list vs) ≠ Grammar.inline {} q)
    ∧ q'.bindings = .ok [.int 1, .int 2]
      ∧ Grammar.query {} q' = .ok "select * from `t` where `a` = ? ? `b` = ?"
      ∧ Sql.bind "select * from `t` where `a` = ? ? `b` = ?" (.list [.int 1, .int 2])
        = .error (.bindingCount 3 2) := by
  intro q vs q'
  have hbound : Sql.bind "select * from `t` where `a` between ? and ?" (.list vs)
      = .ok "select * from `t` where `a` between 1 and " := by decide +kernel
  have hinline : Grammar.inline {} q = .ok "select * from `t` where `a` between 1 and" := by
    decide +kernel
  refine ⟨⟨?_, ?_, rfl, by decide, by decide +kernel, hbound, hinline, ?_⟩, rfl,
    by decide +kernel, by decide +kernel⟩
  · have ht := Outline.wellWritten_table (g := {}) (v := .text "t") (by decide)
    simp only [q, Query.WellWritten, WellWrittenJoins, WellWrittenConditions, Condition.WellWritten,
      WellWrittenUnions, Query.on, List.not_mem_nil, false_imp_iff, implies_true, and_true, true_and]
    exact ⟨ht, by decide⟩
  · simp only [q, Query.Tight, TightJoins, TightConditions, Condition.Tight, TightUnions, Query.on,
      and_self]
  · rw [hbound, hinline]
    intro h
    exact absurd (Except.ok.inj h) (by decide)

end QueryClient
