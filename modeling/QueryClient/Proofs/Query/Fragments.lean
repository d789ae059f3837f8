import QueryClient.Proofs.Query.Additions
import QueryClient.Proofs.Query.Inlining
import QueryClient.Proofs.Sql.Alignment
import QueryClient.Query.Filter

/-!
# Parts of a statement without values

The selected columns, the table, the columns of groups, the orders and the bounds of a query hold no
placeholder; what a query is written with around them does not either.
-/

namespace QueryClient

open Sql (Inert Aligned AlignedAll)

theorem Sql.Inert.append_text {s t : String} (hs : Inert s.toList) (ht : Inert t.toList) :
    Inert (s ++ t).toList := by
  rw [String.toList_append]
  exact hs.append ht

theorem Sql.isPlain_of_isDigit {c : Char} (h : c.isDigit = true) : isPlain c = true := by
  have hne : ∀ d : Char, d.isDigit = false → c ≠ d := by
    rintro d hd rfl; rw [h] at hd; cases hd
  simp [isPlain, isQuote, hne '\'' (by decide), hne '"' (by decide), hne '\x60' (by decide),
    hne '?' (by decide)]

theorem Sql.inert_int (n : Int) : Inert (toString n).toList := by
  refine Inert.ofPlain fun c hc => ?_
  rcases Text.mem_int hc with rfl | hdigit
  · decide
  · exact isPlain_of_isDigit hdigit

/-! ## Lists of inert texts -/

/-- The texts could be written and all are inert. -/
def AreInert (texts : Except Fault (List String)) : Prop :=
  ∃ ts, texts = .ok ts ∧ ∀ t ∈ ts, Inert t.toList

theorem areInert_mapM {α : Type} {f : α → Except Fault String} {as : List α}
    (h : ∀ a ∈ as, IsInert (f a)) : AreInert (as.mapM f) := by
  induction as with
  | nil => exact ⟨[], rfl, by simp⟩
  | cons a as ih =>
      simp only [List.forall_mem_cons] at h
      obtain ⟨s, hs, hinert⟩ := h.1
      obtain ⟨ts, hts, hall⟩ := ih h.2
      refine ⟨s :: ts, by rw [List.mapM_cons, hs, hts]; rfl, ?_⟩
      simpa only [List.forall_mem_cons] using ⟨hinert, hall⟩

theorem Sql.Aligned.inert {t out : String} (h : Aligned t [] out) : Inert t.toList :=
  ⟨h.closed, h.count⟩

theorem inert_join {separator : String} {ts : List String} (hs : Inert separator.toList)
    (h : ∀ t ∈ ts, Inert t.toList) : Inert (Text.join separator ts).toList :=
  ((AlignedAll.ofInert h).join hs).inert

/-! ## Flat parts -/

namespace Grammar

variable (g : Grammar) {o : Outline}

theorem columns_inert {vs : List Value} (h : ∀ v ∈ vs, IsInert (g.column v)) :
    IsInert (g.columns vs) := by
  obtain ⟨ts, hts, hall⟩ := areInert_mapM h
  exact ⟨_, by rw [columns, hts]; rfl, inert_join (by decide) hall⟩

theorem selection_inert (h : o.WellWritten g) : AreInert (g.selection o) := by
  unfold selection
  cases ha : o.aggregate with
  | some aggregate =>
      obtain ⟨hfunction, hcolumns⟩ := h.aggregate aggregate (by rw [ha]; rfl)
      obtain ⟨s, hs, hinert⟩ := g.columns_inert hcolumns
      refine ⟨_, by simp only [hs, ok_bind]; rfl, ?_⟩
      rw [List.forall_mem_singleton]
      refine Inert.append_text ?_ (by decide)
      refine Inert.append_text ((Inert.append_text (by decide) hfunction).append_text (by decide)) ?_
      split
      · exact Inert.append_text (by decide) hinert
      · exact hinert
  | none =>
      obtain ⟨s, hs, hinert⟩ := g.columns_inert (h.columns ha)
      refine ⟨_, by simp only [hs, ok_bind]; rfl, ?_⟩
      rw [List.forall_mem_singleton]
      refine Inert.append_text ?_ hinert
      split <;> decide

theorem fromTable_inert (h : o.WellWritten g) : AreInert (g.fromTable o) := by
  unfold fromTable
  cases hnull : o.table.isNull with
  | true => exact ⟨[], rfl, by simp⟩
  | false =>
      obtain ⟨s, hs, hinert⟩ := h.table hnull
      refine ⟨["from " ++ s], by rw [hs]; rfl, ?_⟩
      rw [List.forall_mem_singleton]
      exact Inert.append_text (by decide) hinert

theorem grouping_inert (h : o.WellWritten g) : AreInert (g.grouping o) := by
  unfold grouping
  split
  · exact ⟨[], rfl, by simp⟩
  · obtain ⟨s, hs, hinert⟩ := g.columns_inert h.groups
    refine ⟨["group by " ++ s], by rw [hs]; rfl, ?_⟩
    rw [List.forall_mem_singleton]
    exact Inert.append_text (by decide) hinert

theorem orderText_inert {order : Order} (h : order.WellWritten g) :
    ∃ v, g.orderEntry order = .ok v ∧ IsInert (orderText v) := by
  cases order with
  | «by» column direction =>
      obtain ⟨s, hs, hinert⟩ := h
      refine ⟨.text (s ++ " " ++ direction.text), by rw [orderEntry, hs]; rfl, _, rfl, ?_⟩
      exact (hinert.append_text (by decide)).append_text (by cases direction <;> decide)
  | sql text =>
      obtain ⟨s, rfl, hinert⟩ := h
      exact ⟨.text s, rfl, s, rfl, hinert⟩

theorem orderEntries_inert {orders : List Order} (h : ∀ order ∈ orders, order.WellWritten g) :
    ∃ vs, orders.mapM g.orderEntry = .ok vs ∧ ∀ v ∈ vs, IsInert (orderText v) := by
  induction orders with
  | nil => exact ⟨[], rfl, by simp⟩
  | cons order orders ih =>
      simp only [List.forall_mem_cons] at h
      obtain ⟨v, hv, hinert⟩ := g.orderText_inert h.1
      obtain ⟨vs, hvs, hall⟩ := ih h.2
      refine ⟨v :: vs, by rw [List.mapM_cons, hv, hvs]; rfl, ?_⟩
      simpa only [List.forall_mem_cons] using ⟨hinert, hall⟩

theorem ordering_inert {orders : List Order} (h : ∀ order ∈ orders, order.WellWritten g) :
    AreInert (g.ordering orders) := by
  unfold ordering
  split
  · exact ⟨[], rfl, by simp⟩
  · obtain ⟨vs, hvs, hentries⟩ := g.orderEntries_inert h
    obtain ⟨ts, hts, hall⟩ := areInert_mapM hentries
    refine ⟨["order by " ++ Text.join ", " ts], by rw [hvs, ok_bind, hts]; rfl, ?_⟩
    rw [List.forall_mem_singleton]
    exact Inert.append_text (by decide) (inert_join (by decide) hall)

theorem bound_inert {word : String} (h : Inert word.toList) (n : Option Int) :
    ∀ t ∈ bound word n, Inert t.toList := by
  cases n with
  | none => simp [bound]
  | some n =>
      rw [bound, List.forall_mem_singleton]
      exact (h.append_text (by decide)).append_text (Sql.inert_int n)

theorem unionTail_inert (h : ∀ order ∈ o.unionOrders, order.WellWritten g) :
    IsInert (g.unionTail o) := by
  obtain ⟨ts, hts, hall⟩ := g.ordering_inert h
  refine ⟨_, by rw [unionTail, hts]; rfl, ?_⟩
  have hlimitWord : Inert "limit".toList := by decide
  have hoffsetWord : Inert "offset".toList := by decide
  have hlimit := bound_inert hlimitWord o.unionLimit
  have hoffset := bound_inert hoffsetWord o.unionOffset
  have hparts : ∀ t ∈ (ts ++ bound "limit" o.unionLimit ++ bound "offset" o.unionOffset).map (" " ++ ·),
      Inert t.toList := by
    simp only [List.forall_mem_map, List.forall_mem_append]
    have hspace : ∀ t : String, Inert t.toList → Inert (" " ++ t).toList :=
      fun t ht => Inert.append_text (by decide) ht
    exact ⟨⟨fun t ht => hspace t (hall t ht), fun t ht => hspace t (hlimit t ht)⟩,
      fun t ht => hspace t (hoffset t ht)⟩
  exact (AlignedAll.ofInert hparts).concat.inert

end Grammar

end QueryClient
