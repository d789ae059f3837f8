import QueryClient.Proofs.Result.Content
import QueryClient.Proofs.Text.Utf8
import QueryClient.Result.Access

/-!
# How questions to a result end

A question to the body of a completed request is answered from what the body holds. Where the
request failed, or where the body is no document in a format that has one for all, the failure is
reported as one of the server. A bad line of a body with one document on each, or a document that
does not stand for what is asked, lets another failure out.
-/

namespace QueryClient.Result

/-- What is asked of a body as a whole. -/
inductive Question where
  | rows
  | first
  | columns
  | totals
  | extremes
  | statistics
  | countRows
  | countAll
deriving Repr, DecidableEq

namespace Question

/-- How the question is put to a result. -/
def access : Question → Access
  | rows => .rows
  | first => .first .null
  | columns => .columns
  | totals => .totals
  | extremes => .extremes
  | statistics => .statistics
  | countRows => .countRows
  | countAll => .countAll

/-- What there is to answer with. -/
def answer? (content : Content) : Question → Option Document
  | rows => content.rows?.map .array
  | first => content.rows?.map fun rows => rows.headD .null
  | columns => some ((content.member? "meta").getD (.array []))
  | totals => some ((content.member? "totals").getD .null)
  | extremes => some ((content.member? "extremes").getD .null)
  | statistics => some ((content.member? "statistics").getD .null)
  | countRows => content.rows?.bind fun rows =>
    (wholeIn? ((content.member? "rows").getD (.int rows.length))).map .int
  | countAll => (wholeIn? ((content.member? "rows_before_limit_at_least").getD
    ((content.member? "rows").getD (.int 0)))).map .int

end Question

variable {r : Result} {content : Content} {q : Question}

/-! ## Answers -/

/-- A question is answered with the document that there is, or fails for want of one. -/
def Ends (outcome : Except Fault Answer) : Option Document → Prop
  | some d => outcome = .ok (.document d)
  | none => ∃ fault ∈ misfits, outcome = .error fault

theorem ends_whole (d : Document) :
    Ends (do return .document (.int (← d.toValue.toWhole))) ((wholeIn? d).map .int) := by
  cases hwhole : wholeIn? d with
  | some n =>
      rw [toWhole_of_some hwhole]
      rfl
  | none =>
      obtain ⟨fault, hmem, hfault⟩ := toWhole_of_none hwhole
      rw [hfault]
      exact ⟨fault, hmem, rfl⟩

/-- What is made of the rows is there if there are rows. -/
theorem ends_rows (hok : r.isError = false) (h : Holds r.format r.response.text content)
    {made : List Document → Except Fault Answer} {answer? : List Document → Option Document}
    (hmade : ∀ rows, Ends (made rows) (answer? rows)) :
    Ends (r.rows >>= made) (content.rows?.bind answer?) := by
  rw [rows_of_holds hok h]
  cases content.rows? with
  | some rows => exact hmade rows
  | none => exact ⟨.wrongKind, by decide, rfl⟩

theorem first_null (r : Result) : r.first .null = do return (← r.rows).headD .null := by
  unfold first
  congr 1
  funext rows
  cases rows <;> rfl

/-- Where a body holds something, that alone decides on the answers. -/
theorem ends_of_holds (hok : r.isError = false) (h : Holds r.format r.response.text content)
    (q : Question) : Ends (r.ask q.access) (q.answer? content) := by
  cases q with
  | rows =>
      rw [Question.answer?, Option.map_eq_bind]
      exact ends_rows hok h fun rows => rfl
  | first =>
      rw [Question.answer?, Option.map_eq_bind, Question.access, ask, first_null, bind_assoc]
      exact ends_rows hok h fun rows => rfl
  | countRows =>
      rw [Question.access, ask, countRows_of_holds hok h, bind_assoc]
      exact ends_rows hok h fun rows => ends_whole _
  | countAll =>
      rw [Question.access, ask, countAll_of_holds hok h]
      exact ends_whole _
  | columns =>
      rw [Question.access, ask, columns, member_of_holds hok h (by decide)]
      rfl
  | totals =>
      rw [Question.access, ask, totals, member_of_holds hok h (by decide)]
      rfl
  | extremes =>
      rw [Question.access, ask, extremes, member_of_holds hok h (by decide)]
      rfl
  | statistics =>
      rw [Question.access, ask, statistics, member_of_holds hok h (by decide)]
      rfl

/-! ## Failures -/

/-- Where there are no members, every question fails with the same. -/
theorem ask_of_members_error {fault : Fault} (h : r.members = .error fault) (q : Question) :
    r.ask q.access = .error fault := by
  have hrows : r.rows = .error fault := by
    rw [rows, h]
    rfl
  have hmember (name : String) (default : Document) : r.member name default = .error fault := by
    rw [member, h]
    rfl
  have hcountRows : r.countRows = .error fault := by
    rw [countRows, h]
    rfl
  have hcountAll : r.countAll = .error fault := by
    rw [countAll, h]
    rfl
  cases q with
  | rows => rw [Question.access, ask, hrows]; rfl
  | first => rw [Question.access, ask, first, hrows]; rfl
  | columns => rw [Question.access, ask, columns, hmember]; rfl
  | totals => rw [Question.access, ask, totals, hmember]; rfl
  | extremes => rw [Question.access, ask, extremes, hmember]; rfl
  | statistics => rw [Question.access, ask, statistics, hmember]; rfl
  | countRows => rw [Question.access, ask, hcountRows]; rfl
  | countAll => rw [Question.access, ask, hcountAll]; rfl

theorem ask_of_isError (h : r.isError = true) (q : Question) :
    r.ask q.access = .error r.fault :=
  ask_of_members_error (members_of_isError h) q

theorem ask_of_noDocument (hok : r.isError = false) (h : IsNoDocument r.format r.response.text)
    (q : Question) : r.ask q.access = .error r.notJson :=
  ask_of_members_error (members_of_noDocument hok h) q

theorem ask_of_badLine (hok : r.isError = false) (h : HasBadLine r.format r.response.text)
    (q : Question) : r.ask q.access = .error .malformedJson :=
  ask_of_members_error (members_of_badLine hok h) q

theorem ask_of_some (hok : r.isError = false) (h : Holds r.format r.response.text content)
    {d : Document} (hd : q.answer? content = some d) : r.ask q.access = .ok (.document d) := by
  have hends := ends_of_holds hok h q
  rwa [hd] at hends

theorem ask_of_none (hok : r.isError = false) (h : Holds r.format r.response.text content)
    (hd : q.answer? content = none) : ∃ fault ∈ misfits, r.ask q.access = .error fault := by
  have hends := ends_of_holds hok h q
  rwa [hd] at hends

/-! ## Courses -/

/-- A failed request is reported, and so is a body that is no document. -/
def Reports (r : Result) (failure : ServerFailure) : Prop :=
  r.isError = true ∧ r.fault = .server failure
    ∨ r.isError = false ∧ IsNoDocument r.format r.response.text ∧ r.notJson = .server failure

/-- The courses that a question can take, with what comes of it. -/
inductive Course (r : Result) (q : Question) : Except Fault Answer → Prop where
  | answered {content : Content} {d : Document} (hok : r.isError = false)
      (h : Holds r.format r.response.text content) (hd : q.answer? content = some d) :
      Course r q (.ok (.document d))
  | reported {failure : ServerFailure} (h : r.Reports failure) :
      Course r q (.error (.server failure))
  | badLine (hok : r.isError = false) (h : HasBadLine r.format r.response.text) :
      Course r q (.error .malformedJson)
  | lacking {content : Content} {fault : Fault} (hok : r.isError = false)
      (h : Holds r.format r.response.text content) (hd : q.answer? content = none)
      (hfault : fault ∈ misfits) : Course r q (.error fault)

theorem course (r : Result) (q : Question) : Course r q (r.ask q.access) := by
  cases hok : r.isError with
  | true =>
      rw [ask_of_isError hok]
      exact .reported (.inl ⟨hok, rfl⟩)
  | false =>
      obtain ⟨content, h⟩ | hbad | hno := holds_or_unreadable r.format r.response.text
      · cases hd : q.answer? content with
        | some d =>
            rw [ask_of_some hok h hd]
            exact .answered hok h hd
        | none =>
            obtain ⟨fault, hfault, hask⟩ := ask_of_none hok h hd
            rw [hask]
            exact .lacking hok h hd hfault
      · rw [ask_of_badLine hok hbad]
        exact .badLine hok hbad
      · rw [ask_of_noDocument hok hno]
        exact .reported (.inr ⟨hok, hno, rfl⟩)

theorem family_of_mem_misfits {fault : Fault} (h : fault ∈ misfits) : fault.family = .other := by
  have hall : ∀ fault ∈ misfits, fault.family = .other := by decide
  exact hall fault h

theorem ask_of_reports {failure : ServerFailure} (h : r.Reports failure) (q : Question) :
    r.ask q.access = .error (.server failure) := by
  obtain ⟨hfailed, hfault⟩ | ⟨hok, hno, hfault⟩ := h
  · rw [ask_of_isError hfailed, hfault]
  · rw [ask_of_noDocument hok hno, hfault]

/-! ## How a question ends -/

/-- How a question ends is told by the response. -/
structure EndsAsTold (r : Result) (q : Question) : Prop where
  /-- What the body of a successful response holds is answered with. -/
  answered : ∀ answer, r.ask q.access = .ok answer ↔
    r.isError = false ∧ ∃ content d, Holds r.format r.response.text content
      ∧ q.answer? content = some d ∧ answer = .document d
  reported : ∀ failure, r.ask q.access = .error (.server failure) ↔ r.Reports failure
  /-- A report carries the status, the body and the SQL. -/
  report : ∀ failure, r.Reports failure →
    failure.status = r.response.status ∧ failure.body = r.response.text ∧ failure.sql = r.sql
  /-- Another failure gets out where a line is bad, or where there is nothing to answer with. -/
  escaped : (∃ fault, r.ask q.access = .error fault ∧ fault.family ≠ .server) ↔
    r.isError = false ∧ (HasBadLine r.format r.response.text
      ∨ ∃ content, Holds r.format r.response.text content ∧ q.answer? content = none)
  /-- No failures but these get out. -/
  kinds : ∀ fault, r.ask q.access = .error fault → fault.family ≠ .server →
    fault ∈ .malformedJson :: misfits

/-- Whatever the status, the headers, the error, the body and the format are: a question is answered
from what the body holds, or the failure is reported as one of the server, unless a line of a body
with one document on each is bad, or the body does not hold what is asked. -/
theorem question_ends_as_told (r : Result) (q : Question) : EndsAsTold r q where
  answered answer := by
    have hcourse := course r q
    constructor
    · intro hask
      rw [hask] at hcourse
      cases hcourse with
      | answered hok h hd => exact ⟨hok, _, _, h, hd, rfl⟩
    · rintro ⟨hok, content, d, h, hd, rfl⟩
      exact ask_of_some hok h hd
  reported failure := by
    have hcourse := course r q
    refine ⟨fun hask => ?_, fun h => ask_of_reports h q⟩
    rw [hask] at hcourse
    cases hcourse with
    | reported h => exact h
    | lacking _ _ _ hfault => cases family_of_mem_misfits hfault
  report failure := by
    rintro (⟨-, hfault⟩ | ⟨-, -, hfault⟩) <;> cases hfault <;> exact ⟨rfl, rfl, rfl⟩
  escaped := by
    have hcourse := course r q
    constructor
    · rintro ⟨fault, hask, hfamily⟩
      rw [hask] at hcourse
      cases hcourse with
      | reported => exact absurd rfl hfamily
      | badLine hok h => exact ⟨hok, .inl h⟩
      | lacking hok h hd => exact ⟨hok, .inr ⟨_, h, hd⟩⟩
    · rintro ⟨hok, h | ⟨content, h, hd⟩⟩
      · exact ⟨_, ask_of_badLine hok h q, by decide⟩
      · obtain ⟨fault, hfault, hask⟩ := ask_of_none hok h hd
        refine ⟨fault, hask, ?_⟩
        rw [family_of_mem_misfits hfault]
        decide
  kinds fault hask hfamily := by
    have hcourse := course r q
    rw [hask] at hcourse
    cases hcourse with
    | reported => exact absurd rfl hfamily
    | badLine => exact List.mem_cons_self
    | lacking _ _ _ hfault => exact List.mem_cons_of_mem _ hfault

/-- A body that is no document at all: in the format with one document on each line it lets out the
failure to read it, and in another format it is reported. -/
theorem bad_line_gets_out :
    let r : Result := {
      response := { status := 200, body := Text.encode "not json" }
      sql := some "select 1"
      format := some "JSONEachRow" }
    let r' : Result := { r with format := some "JSON" }
    (r.ask .rows = .error .malformedJson ∧ Fault.malformedJson.family ≠ .server)
      ∧ r'.ask .rows = .error r'.notJson ∧ r'.notJson.family = .server := by
  intro r r'
  have htext : r.response.text = "not json" := Text.decodeLenient_encode _
  have hread : Json.read? "not json" = none := rfl
  have hbad : HasBadLine r.format r.response.text := by
    rw [htext]
    exact ⟨rfl, "not json", by decide, hread⟩
  have hno : IsNoDocument r'.format r'.response.text := by
    rw [show r'.response.text = "not json" from htext]
    exact ⟨by decide, by decide, hread⟩
  exact ⟨⟨ask_of_badLine rfl hbad .rows, by decide⟩, ask_of_noDocument rfl hno .rows, rfl⟩

end QueryClient.Result
