import QueryClient.Proofs.Json.Extension
import QueryClient.Proofs.Text.Lines
import QueryClient.Proofs.Text.Utf8
import QueryClient.Result.Basic

/-!
# Rows with one object on each line

A response in this format is cut into lines before any of them is read. The lines are the rows
wherever only line feeds end a line; but some characters that a string may hold as they are end one
as well.
-/

namespace QueryClient.Result

open Json (Gap Written)
open Text (fullFrom isBlank isLineEnd)

/-! ## Rows as they are written -/

/-- An object on a line, with white space around it. -/
structure Row where
  before : Gap
  object : Written
  isObject : object.isObject = true
  after : Gap

namespace Row

def chars (row : Row) : List Char :=
  row.before.chars ++ (row.object.chars ++ row.after.chars)

def value (row : Row) : Document :=
  row.object.value

/-- No line ends between the braces. -/
def Unbroken (row : Row) : Prop :=
  ∀ c ∈ row.object.chars, isLineEnd c = false

instance (row : Row) : Decidable row.Unbroken :=
  inferInstanceAs (Decidable (∀ c ∈ row.object.chars, isLineEnd c = false))

/-- Rows joined by line feeds, with one at the end or without. -/
def body (rows : List Row) (final : Bool) : String :=
  String.ofList (List.intercalate ['\n'] (rows.map chars) ++ if final then ['\n'] else [])

/-! ## White space around an object -/

/-- White space within a line. -/
def Inner (cs : List Char) : Prop :=
  ∀ c ∈ cs, c ∈ [' ', '\t']

theorem Inner.areSpaces {cs : List Char} (h : Inner cs) : ∀ c ∈ cs, c ∈ [' ', '\t', '\n', '\r'] :=
  fun c hc => List.mem_append_left ['\n', '\r'] (h c hc)

theorem Inner.isBlank {cs : List Char} (h : Inner cs) : cs.all isBlank = true := by
  have hall : ∀ c ∈ [' ', '\t'], Text.isBlank c = true := by decide
  exact List.all_eq_true.mpr fun c hc => hall c (h c hc)

theorem Inner.cons {c : Char} {cs : List Char} (hc : c ∈ [' ', '\t']) (h : Inner cs) :
    Inner (c :: cs) := by
  rw [Inner, List.forall_mem_cons]
  exact ⟨hc, h⟩

theorem lineEnd_or_inner {c : Char} (h : c ∈ [' ', '\t', '\n', '\r']) :
    isLineEnd c = true ∨ isLineEnd c = false ∧ c ∈ [' ', '\t'] := by
  have hall : ∀ c ∈ [' ', '\t', '\n', '\r'],
      isLineEnd c = true ∨ isLineEnd c = false ∧ c ∈ [' ', '\t'] := by decide
  exact hall c h

theorem inner_nil : Inner [] :=
  fun _ h => absurd h List.not_mem_nil

/-- A line with nothing in it but white space does not count. -/
theorem fullFrom_lineEnd {current : List Char} (h : Inner current) {c : Char}
    (hc : isLineEnd c = true) (cs : List Char) :
    fullFrom current (c :: cs) = fullFrom [] cs := by
  have hblank : current.reverse.all isBlank = true := by
    rw [List.all_reverse]
    exact h.isBlank
  rw [Text.fullFrom_lineEnd hc]
  simp [hblank]

theorem fullFrom_gap {current : List Char} (h : Inner current) {gap : List Char}
    (hgap : ∀ c ∈ gap, c ∈ [' ', '\t', '\n', '\r']) (rest : List Char) :
    ∃ front, Inner front ∧ fullFrom current (gap ++ rest) = fullFrom front rest := by
  induction gap generalizing current with
  | nil => exact ⟨current, h, rfl⟩
  | cons c gap ih =>
      rw [List.forall_mem_cons] at hgap
      rw [List.cons_append]
      rcases lineEnd_or_inner hgap.1 with hend | ⟨hno, hinner⟩
      · rw [fullFrom_lineEnd h hend]
        exact ih inner_nil hgap.2
      · rw [Text.fullFrom_cons hno]
        exact ih (h.cons hinner) hgap.2

theorem fullFrom_gap_feed {gap : List Char} (hgap : ∀ c ∈ gap, c ∈ [' ', '\t', '\n', '\r'])
    (rest : List Char) : fullFrom [] (gap ++ '\n' :: rest) = fullFrom [] rest := by
  obtain ⟨front, hfront, hfull⟩ := fullFrom_gap inner_nil hgap ('\n' :: rest)
  rw [hfull, fullFrom_lineEnd hfront (by decide)]

theorem fullFrom_solid {current : List Char} (h : current.all isBlank = false) {c : Char}
    (hc : isLineEnd c = true) (cs : List Char) :
    fullFrom current (c :: cs) = current.reverse :: fullFrom [] cs := by
  rw [Text.fullFrom_lineEnd hc]
  simp [h]

/-- Behind something that is not blank, white space up to the line feed ends that line. -/
theorem fullFrom_solid_gap {current : List Char} (h : current.all isBlank = false)
    {gap : List Char} (hgap : ∀ c ∈ gap, c ∈ [' ', '\t', '\n', '\r']) (rest : List Char) :
    ∃ back, Inner back ∧ fullFrom current (gap ++ '\n' :: rest)
      = (current.reverse ++ back) :: fullFrom [] rest := by
  induction gap generalizing current with
  | nil =>
      refine ⟨[], inner_nil, ?_⟩
      rw [List.nil_append, fullFrom_solid h (by decide), List.append_nil]
  | cons c gap ih =>
      rw [List.forall_mem_cons] at hgap
      rw [List.cons_append]
      rcases lineEnd_or_inner hgap.1 with hend | ⟨hno, hinner⟩
      · refine ⟨[], inner_nil, ?_⟩
        rw [fullFrom_solid h hend, fullFrom_gap_feed hgap.2, List.append_nil]
      · have h' : (c :: current).all isBlank = false := by
          rw [List.all_cons, h, Bool.and_false]
        obtain ⟨back, hback, hfull⟩ := ih h' hgap.2
        refine ⟨c :: back, hback.cons hinner, ?_⟩
        rw [Text.fullFrom_cons hno, hfull, List.reverse_cons, List.append_assoc]
        rfl

/-! ## Lines of a row -/

theorem exists_brace (row : Row) : ∃ cs, row.object.chars = '\x7b' :: cs :=
  Json.Written.head_of_isObject row.isObject

theorem not_blank_of_brace {line : List Char} (h : '\x7b' ∈ line) : line.all isBlank = false :=
  List.all_eq_false.mpr ⟨'\x7b', h, by decide⟩

/-- A row without a line end is one line. -/
theorem fullFrom_unbroken (row : Row) (h : row.Unbroken) (rest : List Char) :
    ∃ front back : Gap, fullFrom [] (row.chars ++ '\n' :: rest)
      = (front.chars ++ (row.object.chars ++ back.chars)) :: fullFrom [] rest := by
  obtain ⟨front, hfront, hbefore⟩ := fullFrom_gap inner_nil row.before.areSpaces
    (row.object.chars ++ (row.after.chars ++ '\n' :: rest))
  have hsolid : (row.object.chars.reverse ++ front).all isBlank = false := by
    obtain ⟨cs, hcs⟩ := row.exists_brace
    exact not_blank_of_brace (by simp [hcs])
  obtain ⟨back, hback, hafter⟩ := fullFrom_solid_gap hsolid row.after.areSpaces rest
  refine ⟨⟨front.reverse, ?_⟩, ⟨back, hback.areSpaces⟩, ?_⟩
  · exact fun c hc => hfront.areSpaces c (List.mem_reverse.mp hc)
  · simp only [chars, List.append_assoc]
    rw [hbefore, Text.fullFrom_append h, hafter]
    simp

/-- A row with a line end between its braces begins with a line that is cut off there. -/
theorem fullFrom_broken (row : Row) (h : ¬row.Unbroken) (rest : List Char) :
    ∃ (front : Gap) (cut back : List Char) (lines : List (List Char)),
      row.object.chars = cut ++ back ∧ back ≠ []
        ∧ fullFrom [] (row.chars ++ rest) = (front.chars ++ cut) :: lines := by
  obtain ⟨front, hfront, hbefore⟩ := fullFrom_gap inner_nil row.before.areSpaces
    (row.object.chars ++ (row.after.chars ++ rest))
  -- Up to the first line end between the braces the object is one line.
  obtain ⟨cut, c, back, hobject, hcut, hc⟩ :
      ∃ cut c back, row.object.chars = cut ++ c :: back
        ∧ (∀ c ∈ cut, isLineEnd c = false) ∧ isLineEnd c = true := by
    cases hfind : row.object.chars.find? isLineEnd with
    | none =>
        refine absurd (fun c hc => ?_) h
        exact Bool.eq_false_iff.mpr (List.find?_eq_none.mp hfind c hc)
    | some c =>
        obtain ⟨hc, cut, back, hobject, hcut⟩ := List.find?_eq_some_iff_append.mp hfind
        exact ⟨cut, c, back, hobject, fun c hc => by simpa using hcut c hc, hc⟩
  have hsolid : (cut.reverse ++ front).all isBlank = false := by
    obtain ⟨cs, hcs⟩ := row.exists_brace
    cases cut with
    | nil =>
        rw [hcs] at hobject
        rw [← (List.cons.inj hobject).1] at hc
        exact absurd hc (by decide)
    | cons c' cut =>
        rw [hcs] at hobject
        rw [← (List.cons.inj hobject).1]
        exact not_blank_of_brace (by simp)
  have hfull : fullFrom [] (row.chars ++ rest)
      = (front.reverse ++ cut) :: fullFrom [] (back ++ (row.after.chars ++ rest)) := by
    simp only [chars, List.append_assoc]
    rw [hbefore, hobject, List.append_assoc, List.cons_append, Text.fullFrom_append hcut,
      fullFrom_solid hsolid hc]
    simp
  refine ⟨⟨front.reverse, ?_⟩, cut, c :: back, _, hobject, List.cons_ne_nil c back, hfull⟩
  exact fun c hc => hfront.areSpaces c (List.mem_reverse.mp hc)

end Row

/-! ## Documents of the lines -/

theorem lineDocuments_blank {line : List Char} (h : line.all isBlank = true) (lines : List String) :
    lineDocuments (String.ofList line :: lines) = lineDocuments lines := by
  rw [lineDocuments, Text.isBlankText, String.toList_ofList, if_pos h]

theorem lineDocuments_read {line : List Char} (h : line.all isBlank = false) (lines : List String) :
    lineDocuments (String.ofList line :: lines)
      = match Json.read? (String.ofList line) with
        | some d => do return d :: (← lineDocuments lines)
        | none => .error .malformedJson := by
  rw [lineDocuments, Text.isBlankText, String.toList_ofList]
  exact if_neg (Bool.eq_false_iff.mp h)

theorem lineDocuments_lines (text : String) :
    lineDocuments (Text.lines text)
      = lineDocuments ((fullFrom [] text.toList).map String.ofList) := by
  have hfilter (lines : List (List Char)) : lineDocuments (lines.map String.ofList)
      = lineDocuments ((lines.filter fun line => !line.all isBlank).map String.ofList) := by
    induction lines with
    | nil => rfl
    | cons line lines ih =>
        rw [List.map_cons]
        cases hblank : line.all isBlank with
        | true =>
            rw [lineDocuments_blank hblank, ih, List.filter_cons_of_neg (by simp [hblank])]
        | false =>
            rw [lineDocuments_read hblank, ih, List.filter_cons_of_pos (by simp [hblank]),
              List.map_cons, lineDocuments_read hblank]
  exact hfilter _

theorem not_blank_of_fullFrom {cs line : List Char} {lines : List (List Char)}
    (h : fullFrom [] cs = line :: lines) : line.all isBlank = false := by
  have hmem : line ∈ fullFrom [] cs := by rw [h]; exact List.mem_cons_self
  have hline := (List.mem_filter.mp hmem).2
  simpa using hline

/-- Rows are read one by one, up to the first that is broken. -/
theorem lineDocuments_rows (rows : List Row) :
    lineDocuments ((fullFrom [] (rows.flatMap fun row => row.chars ++ ['\n'])).map String.ofList)
      = if ∀ row ∈ rows, row.Unbroken then .ok (rows.map Row.value) else .error .malformedJson := by
  induction rows with
  | nil => rfl
  | cons row rows ih =>
      rw [List.flatMap_cons, List.append_assoc, List.singleton_append]
      by_cases hrow : row.Unbroken
      · obtain ⟨front, back, hfull⟩ := row.fullFrom_unbroken hrow
          (rows.flatMap fun row => row.chars ++ ['\n'])
        have hread := Json.read?_written row.object front back
        rw [hfull, List.map_cons, lineDocuments_read (not_blank_of_fullFrom hfull), hread, ih]
        by_cases hrows : ∀ row ∈ rows, row.Unbroken
        · rw [if_pos hrows, if_pos (List.forall_mem_cons.mpr ⟨hrow, hrows⟩)]
          rfl
        · rw [if_neg hrows, if_neg (fun h => hrows (List.forall_mem_cons.mp h).2)]
          rfl
      · obtain ⟨front, cut, back, lines, hobject, hback, hfull⟩ := row.fullFrom_broken hrow
          ('\n' :: rows.flatMap fun row => row.chars ++ ['\n'])
        have hread := Json.read?_cut row.isObject front hobject hback
        rw [hfull, List.map_cons, lineDocuments_read (not_blank_of_fullFrom hfull), hread]
        rw [if_neg (fun h => hrow (h row List.mem_cons_self))]

/-! ## Rows of a response -/

/-- The rows in this format are the documents of the lines, also when there is none. -/
theorem rows_eq_lineDocuments {r : Result} (herror : r.response.error = none)
    (hstatus : Http.isSuccess r.response.status = true) (hformat : r.format = some "JSONEachRow") :
    r.rows = lineDocuments (Text.lines r.response.text) := by
  have hok : r.isError = false := by
    simp [Result.isError, Http.Response.isOk, herror, hstatus]
  unfold rows members
  rw [hok, if_neg Bool.false_ne_true]
  by_cases hblank : Text.isBlankText r.response.text = true
  · have hno : fullFrom [] r.response.text.toList = [] := Text.fullFrom_of_blank rfl hblank
    rw [lineDocuments_lines, hno, if_pos hblank]
    rfl
  · rw [if_neg hblank, hformat, if_pos (beq_self_eq_true _)]
    cases lineDocuments (Text.lines r.response.text) <;> rfl

theorem body_feed {rows : List Row} (h : rows ≠ []) :
    List.intercalate ['\n'] (rows.map Row.chars) ++ ['\n']
      = rows.flatMap fun row => row.chars ++ ['\n'] := by
  induction rows with
  | nil => exact absurd rfl h
  | cons row rows ih =>
      cases rows with
      | nil => simp
      | cons next rows =>
          rw [List.map_cons, List.intercalate_cons_of_ne_nil (by simp), List.append_assoc,
            ih (by simp), List.flatMap_cons (x := row)]

theorem fullFrom_body (rows : List Row) (final : Bool) :
    fullFrom [] (Row.body rows final).toList
      = fullFrom [] (rows.flatMap fun row => row.chars ++ ['\n']) := by
  rw [Row.body, String.toList_ofList]
  by_cases h : rows = []
  · subst h
    cases final with
    | true => exact Text.fullFrom_feed [] []
    | false => rfl
  · rw [← body_feed h]
    cases final with
    | true => rfl
    | false => rw [Text.fullFrom_feed, if_neg Bool.false_ne_true, List.append_nil]

/-- The rows of a response with one object on each line, its lines joined by line feeds: they are
read as they were written, provided that no object has a line end between its braces. Otherwise
reading fails. -/
theorem rows_of_lines {r : Result} (rows : List Row) (final : Bool)
    (herror : r.response.error = none) (hstatus : Http.isSuccess r.response.status = true)
    (hformat : r.format = some "JSONEachRow")
    (hbody : r.response.body = Text.encode (Row.body rows final)) :
    r.rows = if ∀ row ∈ rows, row.Unbroken then .ok (rows.map Row.value)
      else .error .malformedJson := by
  have htext : r.response.text = Row.body rows final := by
    rw [Http.Response.text, hbody, Text.decodeLenient_encode]
  rw [rows_eq_lineDocuments herror hstatus hformat, htext, lineDocuments_lines, fullFrom_body,
    lineDocuments_rows]

/-! ## A character that ends lines for some -/

/-- An object with a text under the name `a`. -/
def textRow (letters : List Json.Letter) : Row where
  before := ⟨[], by decide⟩
  object := .object ⟨[], by decide⟩ (.last [.plain 'a' (by decide)] ⟨[], by decide⟩ ⟨[], by decide⟩
    (.text letters) ⟨[], by decide⟩)
  isObject := rfl
  after := ⟨[], by decide⟩

/-- A line separator of Unicode does no harm when it is escaped. -/
theorem rows_of_lines_escaped :
    let r : Result := {
      response := {
        status := 200
        body := Text.encode "\x7b\"a\":\"\\u2028\"\x7d\n\x7b\"a\":\"\"\x7d" }
      format := some "JSONEachRow" }
    r.rows = .ok [.object [("a", .text "\u2028")], .object [("a", .text "")]] := by
  have hbody : Row.body [textRow [.coded '\u2028' fun _ => false], textRow []] false
      = "\x7b\"a\":\"\\u2028\"\x7d\n\x7b\"a\":\"\"\x7d" := by decide
  have hunbroken : ∀ row ∈ [textRow [.coded '\u2028' fun _ => false], textRow []],
      row.Unbroken := by decide
  intro r
  rw [rows_of_lines (r := r) [textRow [.coded '\u2028' fun _ => false], textRow []] false rfl
    (by decide) rfl (by rw [hbody]), if_pos hunbroken]
  rfl

/-- As it is, it cuts the object in two. -/
theorem rows_of_lines_cut :
    let row := textRow [.plain 'x' (by decide), .plain '\u2028' (by decide), .plain 'y' (by decide)]
    let r : Result := {
      response := { status := 200, body := Text.encode "\x7b\"a\":\"x\u2028y\"\x7d\n" }
      format := some "JSONEachRow" }
    Row.body [row] true = "\x7b\"a\":\"x\u2028y\"\x7d\n"
      ∧ row.value = .object [("a", .text "x\u2028y")]
      ∧ r.rows = .error .malformedJson := by
  intro row r
  have hbody : Row.body [row] true = "\x7b\"a\":\"x\u2028y\"\x7d\n" := by decide
  have hbroken : ¬∀ row' ∈ [row], row'.Unbroken := by decide
  have htext : r.response.text = Row.body [row] true := by
    rw [hbody]
    exact Text.decodeLenient_encode _
  refine ⟨hbody, rfl, ?_⟩
  rw [rows_eq_lineDocuments rfl (by decide) rfl, htext, lineDocuments_lines, fullFrom_body,
    lineDocuments_rows, if_neg hbroken]

end QueryClient.Result
