import QueryClient.Proofs.Result.Content
import QueryClient.Proofs.Text.Utf8

/-!
# Two counts of rows

Where a response does not say how many rows there would be without a bound, both counts are the one
that it says for the rows. Where it says none of the two, rows are counted, but not for the count
without a bound, which is zero then. Nothing but an object says any of the two.
-/

namespace QueryClient.Result

variable {r : Result} {content : Content} {rows : List Document}

/-- The number of rows, as the response says it. -/
def Content.counter? (content : Content) : Option Document :=
  content.member? "rows"

/-- The number of rows without a bound, as the response says it. -/
def Content.unboundedCounter? (content : Content) : Option Document :=
  content.member? "rows_before_limit_at_least"

theorem rows_eq_ok_iff (hok : r.isError = false) (h : Holds r.format r.response.text content) :
    r.rows = .ok rows ↔ content.rows? = some rows := by
  rw [rows_of_holds hok h]
  cases content.rows? <;> simp

theorem countRows_of_rows (hok : r.isError = false) (h : Holds r.format r.response.text content)
    (hrows : r.rows = .ok rows) :
    r.countRows = (content.counter?.getD (.int rows.length)).toValue.toWhole := by
  rw [countRows_of_holds hok h, hrows]
  rfl

/-- Rows that there are not cannot be counted. -/
theorem exists_rows_of_countRows {n : Int} (h : r.countRows = .ok n) :
    ∃ rows, r.rows = .ok rows := by
  obtain ⟨members, -, h⟩ := ok_of_bind h
  obtain ⟨rows, hrows, -⟩ := ok_of_bind h
  exact ⟨rows, hrows⟩

theorem countAll_of_bounded (hok : r.isError = false) (h : Holds r.format r.response.text content)
    (hlimit : content.unboundedCounter? = none) :
    r.countAll = (content.counter?.getD (.int 0)).toValue.toWhole := by
  rw [countAll_of_holds hok h, show content.member? "rows_before_limit_at_least" = none from hlimit]
  rfl

theorem exists_whole_iff (d : Document) :
    (∃ n, d.toValue.toWhole = .ok n) ↔ (wholeIn? d).isSome = true := by
  constructor
  · rintro ⟨n, hn⟩
    refine Option.isSome_iff_ne_none.mpr fun hnone => ?_
    obtain ⟨fault, -, hfault⟩ := toWhole_of_none hnone
    rw [hfault] at hn
    cases hn
  · intro h
    obtain ⟨n, hn⟩ := Option.isSome_iff_exists.mp h
    exact ⟨n, toWhole_of_some hn⟩

/-- The number that the response says is the answer for both. -/
theorem counts_of_counter (hok : r.isError = false) (h : Holds r.format r.response.text content)
    (hlimit : content.unboundedCounter? = none) {d : Document} (hd : content.counter? = some d) :
    r.countAll = d.toValue.toWhole
      ∧ ∀ rows, r.rows = .ok rows → r.countRows = d.toValue.toWhole := by
  refine ⟨?_, fun rows hrows => ?_⟩
  · rw [countAll_of_bounded hok h hlimit, hd, Option.getD_some]
  · rw [countRows_of_rows hok h hrows, hd, Option.getD_some]

/-- Without such a number the rows are counted for one of the two only. -/
theorem counts_of_uncounted (hok : r.isError = false) (h : Holds r.format r.response.text content)
    (hlimit : content.unboundedCounter? = none) (hnone : content.counter? = none) :
    r.countAll = .ok 0 ∧ ∀ rows, r.rows = .ok rows → r.countRows = .ok rows.length := by
  refine ⟨?_, fun rows hrows => ?_⟩
  · rw [countAll_of_bounded hok h hlimit, hnone]
    rfl
  · rw [countRows_of_rows hok h hrows, hnone]
    rfl

/-- Both counts of a response that says nothing of rows without a bound. They are the same where it
says the number of rows. Where it does not, the first one counts the rows and the other one is zero,
so that they are the same only where there are no rows. -/
theorem counts_agree_iff (hok : r.isError = false) (h : Holds r.format r.response.text content)
    (hlimit : content.unboundedCounter? = none) :
    (∀ rows, r.rows = .ok rows →
        (content.counter? ≠ none → r.countAll = r.countRows)
          ∧ (content.counter? = none → r.countRows = .ok rows.length ∧ r.countAll = .ok 0))
      ∧ ((∃ n, r.countAll = .ok n ∧ r.countRows = .ok n) ↔
        ∃ rows, r.rows = .ok rows ∧ match content.counter? with
          | some d => (wholeIn? d).isSome = true
          | none => rows = []) := by
  cases hcounter : content.counter? with
  | some d =>
      obtain ⟨hall, hcount⟩ := counts_of_counter hok h hlimit hcounter
      refine ⟨fun rows hrows => ⟨fun _ => hall.trans (hcount rows hrows).symm, nofun⟩, ?_⟩
      constructor
      · rintro ⟨n, hn, hrows⟩
        obtain ⟨rows, hin⟩ := exists_rows_of_countRows hrows
        exact ⟨rows, hin, (exists_whole_iff d).mp ⟨n, hall ▸ hn⟩⟩
      · rintro ⟨rows, hrows, hd⟩
        obtain ⟨n, hn⟩ := (exists_whole_iff d).mpr hd
        exact ⟨n, hall.trans hn, (hcount rows hrows).trans hn⟩
  | none =>
      obtain ⟨hzero, hcount⟩ := counts_of_uncounted hok h hlimit hcounter
      refine ⟨fun rows hrows =>
        ⟨fun hne => absurd rfl hne, fun _ => ⟨hcount rows hrows, hzero⟩⟩, ?_⟩
      constructor
      · rintro ⟨n, hn, hrows⟩
        obtain ⟨rows, hin⟩ := exists_rows_of_countRows hrows
        have hn : (rows.length : Int) = 0 :=
          Except.ok.inj ((hcount rows hin).symm.trans (hrows.trans (hn.symm.trans hzero)))
        exact ⟨rows, hin, List.eq_nil_of_length_eq_zero (Int.ofNat_eq_zero.mp hn)⟩
      · rintro ⟨rows, hrows, rfl⟩
        exact ⟨0, hzero, hcount [] hrows⟩

/-- A number of rows that is written as text counts for both, whatever the data are. -/
theorem counts_agree_iff_text :
    let r : Result := {
      response := { status := 200, body := Text.encode "\x7b\"data\":[true],\"rows\":\"3\"\x7d" } }
    let content : Content := .object [("data", .array [.bool true]), ("rows", .text "3")]
    r.isError = false ∧ Holds r.format r.response.text content
      ∧ content.unboundedCounter? = none
      ∧ ∃ n, r.countAll = .ok n ∧ r.countRows = .ok n := by
  intro r content
  have htext : r.response.text = "\x7b\"data\":[true],\"rows\":\"3\"\x7d" :=
    Text.decodeLenient_encode _
  have hholds : Holds r.format r.response.text content := by
    rw [htext]
    exact .object (by decide) (by decide) (by cbv)
  have hrows : r.rows = .ok [.bool true] := (rows_eq_ok_iff rfl hholds).mpr rfl
  have hwhole : (wholeIn? (.text "3")).isSome = true := by decide
  exact ⟨rfl, hholds, rfl, (counts_agree_iff rfl hholds rfl).2.mpr ⟨_, hrows, hwhole⟩⟩

/-- Two rows on a line each: one count finds them, and the other one is zero. -/
theorem lines_counted_once :
    let r : Result := {
      response :=
        { status := 200, body := Text.encode "\x7b\"id\":\"1\"\x7d\n\x7b\"id\":\"2\"\x7d\n" }
      format := some "JSONEachRow" }
    let documents : List Document := [.object [("id", .text "1")], .object [("id", .text "2")]]
    r.members = .ok [("data", .array documents)] ∧ r.rows = .ok documents
      ∧ r.countRows = .ok 2 ∧ r.countAll = .ok 0 := by
  intro r documents
  have htext : r.response.text = "\x7b\"id\":\"1\"\x7d\n\x7b\"id\":\"2\"\x7d\n" :=
    Text.decodeLenient_encode _
  have hlines : filledLines "\x7b\"id\":\"1\"\x7d\n\x7b\"id\":\"2\"\x7d\n"
      = ["\x7b\"id\":\"1\"\x7d", "\x7b\"id\":\"2\"\x7d"] := by decide
  have hread : ["\x7b\"id\":\"1\"\x7d", "\x7b\"id\":\"2\"\x7d"].map Json.read?
      = documents.map some := by cbv
  have hholds : Holds r.format r.response.text (.lines documents) := by
    rw [htext]
    exact .lines rfl (by decide) (by rw [hlines, hread])
  have hrows : r.rows = .ok documents := (rows_eq_ok_iff rfl hholds).mpr rfl
  obtain ⟨hzero, hcount⟩ := counts_of_uncounted rfl hholds rfl rfl
  exact ⟨members_of_holds rfl hholds, hrows, hcount _ hrows, hzero⟩

end QueryClient.Result
