import QueryClient.Proofs.Text.Lines
import QueryClient.Result.Basic

/-!
# What a body holds

The body of a successful response holds nothing, one document on each line, an object, or a document
of another kind. Any other body cannot be read: a line of it is no document, or all of it is none.
What is looked up in a result is told by what its body holds.
-/

namespace QueryClient.Result

/-! ## Bodies by their form -/

/-- What a body holds, by its form. -/
inductive Content where
  | nothing
  | lines (documents : List Document)
  | object (members : List (String × Document))
  /-- An array, or a document of another kind that is no object. -/
  | other (d : Document)

/-- The format with one document on each line. -/
def IsLinewise (format : Option String) : Prop :=
  format = some "JSONEachRow"

instance (format : Option String) : Decidable (IsLinewise format) :=
  inferInstanceAs (Decidable (format = some "JSONEachRow"))

/-- The lines of a text that are not blank. -/
def filledLines (text : String) : List String :=
  (Text.lines text).filter fun line => !Text.isBlankText line

/-- A text in a format holds something. -/
inductive Holds (format : Option String) (text : String) : Content → Prop where
  | nothing (hblank : Text.isBlankText text = true) : Holds format text .nothing
  | lines {documents : List Document} (hformat : IsLinewise format)
      (hfull : Text.isBlankText text = false)
      (hread : (filledLines text).map Json.read? = documents.map some) :
      Holds format text (.lines documents)
  | object {members : List (String × Document)} (hformat : ¬IsLinewise format)
      (hfull : Text.isBlankText text = false)
      (hread : Json.read? text = some (.object members)) : Holds format text (.object members)
  | other {d : Document} (hformat : ¬IsLinewise format) (hfull : Text.isBlankText text = false)
      (hread : Json.read? text = some d) (hd : ∀ members, d ≠ .object members) :
      Holds format text (.other d)

/-- A line of a text in the format with one document on each line is none. -/
def HasBadLine (format : Option String) (text : String) : Prop :=
  IsLinewise format ∧ ∃ line ∈ filledLines text, Json.read? line = none

/-- A text in any other format is no document. -/
def IsNoDocument (format : Option String) (text : String) : Prop :=
  ¬IsLinewise format ∧ Text.isBlankText text = false ∧ Json.read? text = none

variable {format : Option String} {text : String}

theorem filledLines_of_blank (h : Text.isBlankText text = true) : filledLines text = [] := by
  have hchars : (Text.linesFrom [] text.toList).filter (fun line => !line.all Text.isBlank) = [] :=
    Text.fullFrom_of_blank rfl h
  rw [filledLines, Text.lines, List.filter_map, List.map_eq_nil_iff]
  simpa only [Function.comp_def, Text.isBlankText, String.toList_ofList] using hchars

theorem isBlankText_of_badLine (h : HasBadLine format text) : Text.isBlankText text = false := by
  obtain ⟨-, line, hline, -⟩ := h
  refine Bool.eq_false_iff.mpr fun hblank => ?_
  rw [filledLines_of_blank hblank] at hline
  exact List.not_mem_nil hline

/-- All lines are documents, or one is none. -/
theorem map_read_or_bad (lines : List String) :
    (∃ documents : List Document, lines.map Json.read? = documents.map some)
      ∨ ∃ line ∈ lines, Json.read? line = none := by
  induction lines with
  | nil => exact .inl ⟨[], rfl⟩
  | cons line lines ih =>
      cases hline : Json.read? line with
      | none => exact .inr ⟨line, List.mem_cons_self, hline⟩
      | some d =>
          obtain ⟨documents, hread⟩ | ⟨bad, hmem, hbad⟩ := ih
          · exact .inl ⟨d :: documents, by rw [List.map_cons, hline, hread, List.map_cons]⟩
          · exact .inr ⟨bad, List.mem_cons_of_mem line hmem, hbad⟩

/-- Every text holds something, or it cannot be read. -/
theorem holds_or_unreadable (format : Option String) (text : String) :
    (∃ content, Holds format text content) ∨ HasBadLine format text ∨ IsNoDocument format text := by
  cases hblank : Text.isBlankText text with
  | true => exact .inl ⟨_, .nothing hblank⟩
  | false =>
      by_cases hformat : IsLinewise format
      · obtain ⟨documents, hread⟩ | hbad := map_read_or_bad (filledLines text)
        · exact .inl ⟨_, .lines hformat hblank hread⟩
        · exact .inr (.inl ⟨hformat, hbad⟩)
      · cases hread : Json.read? text with
        | none => exact .inr (.inr ⟨hformat, hblank, hread⟩)
        | some d =>
            by_cases hd : ∃ members, d = .object members
            · obtain ⟨members, rfl⟩ := hd
              exact .inl ⟨_, .object hformat hblank hread⟩
            · exact .inl ⟨_, .other hformat hblank hread fun members heq => hd ⟨members, heq⟩⟩

/-! ## Reading line by line -/

theorem lineDocuments_of_read {lines : List String} {documents : List Document}
    (h : (lines.filter fun line => !Text.isBlankText line).map Json.read? = documents.map some) :
    lineDocuments lines = .ok documents := by
  induction lines generalizing documents with
  | nil =>
      obtain rfl := List.map_eq_nil_iff.mp h.symm
      rfl
  | cons line lines ih =>
      cases hblank : Text.isBlankText line with
      | true =>
          rw [List.filter_cons_of_neg (by simp [hblank])] at h
          rw [lineDocuments, if_pos hblank, ih h]
      | false =>
          rw [List.filter_cons_of_pos (by simp [hblank]), List.map_cons] at h
          obtain ⟨d, documents, rfl, hd, hrest⟩ := List.map_eq_cons_iff.mp h.symm
          rw [lineDocuments, hblank, if_neg Bool.false_ne_true, ← hd, ih hrest.symm]
          rfl

theorem lineDocuments_of_bad {lines : List String}
    (h : ∃ line ∈ lines.filter fun line => !Text.isBlankText line, Json.read? line = none) :
    lineDocuments lines = .error .malformedJson := by
  obtain ⟨bad, hmem, hbad⟩ := h
  induction lines with
  | nil => exact absurd hmem List.not_mem_nil
  | cons line lines ih =>
      cases hblank : Text.isBlankText line with
      | true =>
          rw [List.filter_cons_of_neg (by simp [hblank])] at hmem
          rw [lineDocuments, if_pos hblank, ih hmem]
      | false =>
          rw [List.filter_cons_of_pos (by simp [hblank]), List.mem_cons] at hmem
          rw [lineDocuments, hblank, if_neg Bool.false_ne_true]
          cases hread : Json.read? line with
          | none => rfl
          | some d =>
              have hrest := hmem.resolve_left fun heq => by
                rw [heq, hread] at hbad
                cases hbad
              rw [ih hrest]
              rfl

/-! ## Members -/

/-- What is looked up by name: the members of an object. In any other content there are the data
only. -/
def Content.members : Content → List (String × Document)
  | nothing => []
  | lines documents => [("data", .array documents)]
  | object members => members
  | other d => [("data", d)]

variable {r : Result} {content : Content}

theorem members_of_isError (h : r.isError = true) : r.members = .error r.fault := by
  rw [Result.members, if_pos h]

theorem members_of_linewise (hok : r.isError = false) (hformat : IsLinewise r.format)
    (hfull : Text.isBlankText r.response.text = false) :
    r.members = (lineDocuments (Text.lines r.response.text)).map
      fun documents => [("data", .array documents)] := by
  have hlinewise : (r.format == some "JSONEachRow") = true := beq_iff_eq.mpr hformat
  simp only [Result.members, hok, hfull, hlinewise, Bool.false_eq_true, ↓reduceIte]
  cases lineDocuments (Text.lines r.response.text) <;> rfl

theorem members_of_document (hok : r.isError = false) (hformat : ¬IsLinewise r.format)
    (hfull : Text.isBlankText r.response.text = false) :
    r.members = match Json.read? r.response.text with
      | some (.object members) => .ok members
      | some d => .ok [("data", d)]
      | none => .error r.notJson := by
  have hlinewise : (r.format == some "JSONEachRow") = false := beq_eq_false_iff_ne.mpr hformat
  cases hread : Json.read? r.response.text with
  | none =>
      simp only [Result.members, hok, hfull, hlinewise, hread, Bool.false_eq_true, ↓reduceIte]
  | some d =>
      cases d <;>
        simp only [Result.members, hok, hfull, hlinewise, hread, Bool.false_eq_true, ↓reduceIte]

theorem members_of_holds (hok : r.isError = false) (h : Holds r.format r.response.text content) :
    r.members = .ok content.members := by
  cases h with
  | nothing hblank =>
      simp only [Result.members, hok, hblank, Bool.false_eq_true, ↓reduceIte]
      rfl
  | lines hformat hfull hread =>
      rw [members_of_linewise hok hformat hfull, lineDocuments_of_read hread]
      rfl
  | object hformat hfull hread =>
      rw [members_of_document hok hformat hfull, hread]
      rfl
  | @other d hformat hfull hread hd =>
      rw [members_of_document hok hformat hfull, hread]
      cases d with
      | object members => exact absurd rfl (hd members)
      | null | bool | int | float | text | array => rfl

theorem members_of_badLine (hok : r.isError = false) (h : HasBadLine r.format r.response.text) :
    r.members = .error .malformedJson := by
  rw [members_of_linewise hok h.1 (isBlankText_of_badLine h), lineDocuments_of_bad h.2]
  rfl

theorem members_of_noDocument (hok : r.isError = false)
    (h : IsNoDocument r.format r.response.text) : r.members = .error r.notJson := by
  rw [members_of_document hok h.1 h.2.1, h.2.2]

/-! ## What is looked up -/

/-- The rows that a document stands for: items, names, or characters. -/
def rowsIn? : Document → Option (List Document)
  | .array items => some items
  | .object members => some (members.map fun (name, _) => .text name)
  | .text s => some (s.toList.map fun c => .text (String.singleton c))
  | _ => none

/-- The whole number that a document stands for: a number without its fraction, a truth value, or
what a text names. -/
def wholeIn? : Document → Option Int
  | .int n => some n
  | .bool b => some (if b then 1 else 0)
  | .float x => Number.truncateFloat? x
  | .text s => Number.integerOfText? s
  | _ => none

namespace Content

def rows? : Content → Option (List Document)
  | nothing => some []
  | lines documents => some documents
  | object members =>
    match Entries.find? "data" members with
    | some d => rowsIn? d
    | none => some []
  | other d => rowsIn? d

/-- A member besides the data. Only objects have any. -/
def member? (name : String) : Content → Option Document
  | object members => Entries.find? name members
  | _ => none

theorem find?_members {name : String} (h : name ≠ "data") (content : Content) :
    Entries.find? name content.members = content.member? name := by
  cases content with
  | nothing | object => rfl
  | lines | other => exact if_neg (Ne.symm h)

end Content

/-- The failures of a document that does not stand for what is looked up. -/
def misfits : List Fault :=
  [.wrongKind, .unusable, .unbounded]

theorem rowsOf_eq (d : Document) :
    rowsOf d = match rowsIn? d with
      | some rows => .ok rows
      | none => .error .wrongKind := by
  cases d <;> rfl

theorem toWhole_of_some {d : Document} {n : Int} (h : wholeIn? d = some n) :
    d.toValue.toWhole = .ok n := by
  cases d with
  | int | bool => exact congrArg Except.ok (Option.some.inj h)
  | float x =>
      rw [wholeIn?] at h
      simp only [Document.toValue, Value.toWhole, h]
  | text s =>
      rw [wholeIn?] at h
      simp only [Document.toValue, Value.toWhole, Value.wholeOfText, h]
  | null | array | object => cases h

theorem toWhole_of_none {d : Document} (h : wholeIn? d = none) :
    ∃ fault ∈ misfits, d.toValue.toWhole = .error fault := by
  cases d with
  | int | bool => cases h
  | float x =>
      rw [wholeIn?] at h
      simp only [Document.toValue, Value.toWhole, h]
      cases x.isNaN
      · exact ⟨.unbounded, by decide, rfl⟩
      · exact ⟨.unusable, by decide, rfl⟩
  | text s =>
      rw [wholeIn?] at h
      simp only [Document.toValue, Value.toWhole, Value.wholeOfText, h]
      exact ⟨.unusable, by decide, rfl⟩
  | null | array | object => exact ⟨.wrongKind, by decide, by rw [Document.toValue]; rfl⟩

theorem rows_of_holds (hok : r.isError = false) (h : Holds r.format r.response.text content) :
    r.rows = match content.rows? with
      | some rows => .ok rows
      | none => .error .wrongKind := by
  rw [Result.rows, members_of_holds hok h, ok_bind]
  cases content with
  | nothing | lines => rfl
  | other d => exact rowsOf_eq d
  | object members =>
      rw [Content.members, Content.rows?]
      cases Entries.find? "data" members with
      | none => rfl
      | some d => exact rowsOf_eq d

theorem member_of_holds (hok : r.isError = false) (h : Holds r.format r.response.text content)
    {name : String} (hname : name ≠ "data") (default : Document) :
    r.member name default = .ok ((content.member? name).getD default) := by
  rw [Result.member, members_of_holds hok h, ok_bind, Content.find?_members hname]
  rfl

theorem countRows_of_holds (hok : r.isError = false) (h : Holds r.format r.response.text content) :
    r.countRows = r.rows >>= fun rows =>
      ((content.member? "rows").getD (.int rows.length)).toValue.toWhole := by
  rw [Result.countRows, members_of_holds hok h, ok_bind, Content.find?_members (by decide)]

theorem countAll_of_holds (hok : r.isError = false) (h : Holds r.format r.response.text content) :
    r.countAll = ((content.member? "rows_before_limit_at_least").getD
      ((content.member? "rows").getD (.int 0))).toValue.toWhole := by
  rw [Result.countAll, members_of_holds hok h, ok_bind, Content.find?_members (by decide),
    Content.find?_members (by decide)]

end QueryClient.Result
