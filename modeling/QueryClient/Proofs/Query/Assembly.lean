import QueryClient.Proofs.Query.Chain

/-!
# Statements from their parts

The last step of compiling, when all parts of a query are texts: they are put in their order, and
united queries are put behind them. Both steps keep alignment.
-/

namespace QueryClient

open Sql (Inert Aligned AlignedAll)

/-- The parts of a query that hold no placeholders, as texts. -/
structure FlatParts where
  selection : List String
  fromTable : List String
  grouping : List String
  ordering : List String

/-- The texts are the flat parts of an outline, and all of them are inert. -/
structure FlatParts.Of (flat : FlatParts) (g : Grammar) (o : Outline) : Prop where
  selection_eq : g.selection o = .ok flat.selection
  fromTable_eq : g.fromTable o = .ok flat.fromTable
  grouping_eq : g.grouping o = .ok flat.grouping
  ordering_eq : g.ordering o.orders = .ok flat.ordering
  selection_inert : ∀ t ∈ flat.selection, Inert t.toList
  fromTable_inert : ∀ t ∈ flat.fromTable, Inert t.toList
  grouping_inert : ∀ t ∈ flat.grouping, Inert t.toList
  ordering_inert : ∀ t ∈ flat.ordering, Inert t.toList

theorem Outline.WellWritten.flatParts {g : Grammar} {o : Outline} (h : o.WellWritten g) :
    ∃ flat : FlatParts, flat.Of g o := by
  obtain ⟨selection, hselection, hs⟩ := g.selection_inert h
  obtain ⟨fromTable, hfrom, hf⟩ := g.fromTable_inert h
  obtain ⟨grouping, hgrouping, hg⟩ := g.grouping_inert h
  obtain ⟨ordering, hordering, ho⟩ := g.ordering_inert h.orders
  exact ⟨⟨selection, fromTable, grouping, ordering⟩, hselection, hfrom, hgrouping, hordering, hs, hf,
    hg, ho⟩

namespace Grammar

/-- Conditions or joins as one part, when there are any. -/
def whenAny (texts : List String) (part : String) : List String :=
  if texts.isEmpty then [] else [part]

/-- A query without those it is united with. -/
def assembled (o : Outline) (flat : FlatParts) (joins wheres havings : List String) : String :=
  Text.trim (Text.join " " (flat.selection ++ flat.fromTable ++ whenAny joins (Text.join " " joins)
    ++ whenAny wheres (introduced "where" wheres) ++ flat.grouping
    ++ whenAny havings (introduced "having" havings) ++ flat.ordering ++ bound "limit" o.limit
    ++ bound "offset" o.offset))

/-- A query and those it is united with. -/
def united (sql : String) (unions : List String) (tail : String) : String :=
  if unions.isEmpty then sql
  else "(" ++ sql ++ ") " ++ Text.trimStart (String.join unions ++ tail)

theorem query_eq {g : Grammar} {o : Outline} {flat : FlatParts} (hflat : flat.Of g o)
    {joins : List Join} {conditions havings : List Condition} {unions : List Union}
    {js ws hs us : List String} {tail : String} (hjoins : g.joins joins = .ok js)
    (hconditions : g.conditions conditions = .ok ws) (hhavings : g.conditions havings = .ok hs)
    (hunions : g.unions unions = .ok us) (htail : us.isEmpty = false → g.unionTail o = .ok tail) :
    g.query ⟨o, joins, conditions, havings, unions⟩
      = .ok (united (assembled o flat js ws hs) us tail) := by
  rw [query, hflat.selection_eq, ok_bind, hflat.fromTable_eq, ok_bind, hjoins, ok_bind, hconditions,
    ok_bind, hflat.grouping_eq, ok_bind, hhavings, ok_bind, hflat.ordering_eq, ok_bind]
  simp only [hunions, ok_bind, united]
  cases hempty : us.isEmpty with
  | true => rfl
  | false => rw [htail hempty]; rfl

/-! ## Alignment -/

theorem whenAny_aligned {ts outs : List String} {vs : List Value} {part out : String}
    (hall : AlignedAll ts vs outs) (h : Aligned part vs out) :
    AlignedAll (whenAny ts part) vs (whenAny outs out) := by
  unfold whenAny
  rw [hall.isEmpty_eq]
  split
  · rename_i hempty
    rw [hall.values_eq_nil hempty]
    exact .nil
  · exact .single h

theorem assembled_aligned {g : Grammar} {o : Outline} {flat : FlatParts} (hflat : flat.Of g o)
    {js ws hs js' ws' hs' : List String} {onJoins onRows onGroups : List Value}
    (hjoins : AlignedAll js onJoins js') (hwheres : Chained ws onRows ws')
    (hhavings : Chained hs onGroups hs') :
    Aligned (assembled o flat js ws hs) (onJoins ++ onRows ++ onGroups)
      (assembled o flat js' ws' hs') := by
  have hselection := AlignedAll.ofInert hflat.selection_inert
  have hfrom := AlignedAll.ofInert hflat.fromTable_inert
  have hgrouping := AlignedAll.ofInert hflat.grouping_inert
  have hordering := AlignedAll.ofInert hflat.ordering_inert
  have hlimitWord : Inert "limit".toList := by decide
  have hoffsetWord : Inert "offset".toList := by decide
  have hlimit := AlignedAll.ofInert (bound_inert hlimitWord o.limit)
  have hoffset := AlignedAll.ofInert (bound_inert hoffsetWord o.offset)
  have hspace : Inert " ".toList := by decide
  have hwhere : Inert "where".toList := by decide
  have hhaving : Inert "having".toList := by decide
  have hrows := ((hselection.append hfrom).append (whenAny_aligned hjoins (hjoins.join hspace))).append
    (whenAny_aligned hwheres.all (hwheres.introduced hwhere))
  have hgroups := (hrows.append hgrouping).append
    (whenAny_aligned hhavings.all (hhavings.introduced hhaving))
  have hparts := ((hgroups.append hordering).append hlimit).append hoffset
  simp only [List.nil_append, List.append_nil] at hparts
  exact (hparts.join hspace).trim

theorem united_aligned {sql out tail : String} {us us' : List String} {vs ws : List Value}
    (h : Aligned sql vs out) (hunions : AlignedAll us ws us')
    (htail : us.isEmpty = false → Inert tail.toList) :
    Aligned (united sql us tail) (vs ++ ws) (united out us' tail) := by
  unfold united
  rw [hunions.isEmpty_eq]
  cases hempty : us.isEmpty with
  | true =>
      rw [hunions.values_eq_nil hempty, List.append_nil]
      exact h
  | false =>
      exact ((h.inert_append (by decide)).append_inert (by decide)).append
        (hunions.concat.append_inert (htail hempty)).trimStart

end Grammar

end QueryClient
