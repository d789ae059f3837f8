import QueryClient.Proofs.Json.Nesting
import QueryClient.Result.Summary
import QueryClient.Text.Split

/-!
# The last summary

A header that was sent more than once holds several objects, joined by commas. The summary is read
from the last opening brace on. That is the last object when no brace stands in the text of its
members, neither of an inner object nor in a string; when one does, there is no summary.
-/

namespace QueryClient.Result

open Json (Gap Letter Members Nested Written nested_of_read? not_nested_of_inner_brace
  read?_written)

/-- What arrives of a header that was sent with one document each time. -/
def joinedHeader (documents : List Written) : String :=
  Text.join ", " (documents.map fun w => String.ofList w.chars)

theorem exists_joinedHeader (earlier : List Written) (last : Written) :
    ∃ front, (joinedHeader (earlier ++ [last])).toList = front ++ last.chars := by
  induction earlier with
  | nil => exact ⟨[], String.toList_ofList⟩
  | cons w earlier ih =>
      obtain ⟨front, hfront⟩ := ih
      obtain ⟨next, rest, hrest⟩ := List.exists_cons_of_ne_nil
        (List.append_ne_nil_of_right_ne_nil earlier (List.cons_ne_nil last []))
      refine ⟨w.chars ++ ", ".toList ++ front, ?_⟩
      rw [hrest] at hfront
      rw [List.append_assoc, ← hfront, List.cons_append, hrest, joinedHeader, joinedHeader,
        List.map_cons, List.map_cons, Text.join_cons_cons, String.toList_append,
        String.toList_append, String.toList_ofList]

/-! ## The last brace -/

theorem fromLastBrace_append {back : List Char} (h : '\x7b' ∉ back) (front : List Char) :
    fromLastBrace (front ++ '\x7b' :: back) = some ('\x7b' :: back) := by
  have hreverse : (front ++ '\x7b' :: back).reverse = back.reverse ++ '\x7b' :: front.reverse := by
    simp
  have hrun : ∀ c ∈ back.reverse, (c != '\x7b') = true := by
    intro c hc
    exact bne_iff_ne.mpr (ne_of_mem_of_not_mem (List.mem_reverse.mp hc) h)
  have hbrace : ∀ c ∈ ('\x7b' :: front.reverse).head?, (c != '\x7b') = false := by
    rintro c ⟨⟩
    rfl
  obtain ⟨htake, -⟩ := Text.takeWhile_append_run hrun hbrace
  have hlength : (back.reverse.length == (front ++ '\x7b' :: back).length) = false := by
    simp only [List.length_reverse, List.length_append, List.length_cons, beq_eq_false_iff_ne]
    omega
  rw [fromLastBrace, hreverse, htake]
  simp only [hlength, Bool.false_eq_true, ↓reduceIte, List.reverse_reverse]

theorem exists_last_of_mem {c : Char} {cs : List Char} (h : c ∈ cs) :
    ∃ front back, cs = front ++ c :: back ∧ c ∉ back := by
  obtain ⟨back, front, hcs, hback⟩ := List.eq_append_cons_of_mem (List.mem_reverse.mpr h)
  refine ⟨front.reverse, back.reverse, ?_, by simpa using hback⟩
  simpa using congrArg List.reverse hcs

theorem summary?_of_toList {header : String} {front back : List Char}
    (h : header.toList = front ++ '\x7b' :: back) (hback : '\x7b' ∉ back) :
    summary? (some header)
      = match Json.read? (String.ofList ('\x7b' :: back)) with
        | some (.object (m :: ms)) => some (m :: ms)
        | _ => none := by
  have hlast : fromLastBrace header.toList = some ('\x7b' :: back) := by
    rw [h, fromLastBrace_append hback]
  change (fromLastBrace header.toList).bind _ = _
  rw [hlast]
  rfl

/-! ## Objects -/

theorem brace_not_mem_gap (gap : Gap) : '\x7b' ∉ gap.chars := by
  intro h
  exact absurd (gap.areSpaces _ h) (by decide)

theorem putAll_entries_ne_nil (ms : Members) : Entries.putAll [] ms.entries ≠ [] := by
  obtain ⟨name, d, rest, h⟩ : ∃ name d rest, ms.entries = (name, d) :: rest := by
    cases ms <;> exact ⟨_, _, _, rfl⟩
  intro hnil
  have hname : name ∈ Entries.names (Entries.putAll [] ms.entries) := by
    rw [Entries.mem_names_putAll, h]
    exact .inl List.mem_cons_self
  rw [hnil] at hname
  cases hname

section Joined

variable (earlier : List Written) (gap : Gap) {ms : Members}

theorem summary?_of_no_brace (h : '\x7b' ∉ ms.chars) :
    summary? (some (joinedHeader (earlier ++ [.object gap ms])))
      = some (Entries.putAll [] ms.entries) := by
  obtain ⟨front, hfront⟩ := exists_joinedHeader earlier (.object gap ms)
  have hbehind : '\x7b' ∉ gap.chars ++ ms.chars :=
    fun hmem => (List.mem_append.mp hmem).elim (brace_not_mem_gap gap) h
  have hread := read?_written (.object gap ms) ⟨[], by simp⟩ ⟨[], by simp⟩
  simp only [Written.chars, Written.value, List.nil_append, List.append_nil] at hfront hread
  obtain ⟨m, rest, hms⟩ := List.exists_cons_of_ne_nil (putAll_entries_ne_nil ms)
  rw [summary?_of_toList hfront hbehind, hread, hms]

theorem summary?_of_brace (h : '\x7b' ∈ ms.chars) :
    summary? (some (joinedHeader (earlier ++ [.object gap ms]))) = none := by
  obtain ⟨front, hfront⟩ := exists_joinedHeader earlier (.object gap ms)
  obtain ⟨inner, hinner, hnested⟩ := Written.nested_inside (w := .object gap ms) rfl
  have hmem : '\x7b' ∈ inner := by
    have hbehind : gap.chars ++ ms.chars = inner ++ ['\x7d'] := (List.cons.inj hinner).2
    have hall : '\x7b' ∈ inner ++ ['\x7d'] := hbehind ▸ List.mem_append_right _ h
    simpa using hall
  obtain ⟨before, back, rfl, hback⟩ := exists_last_of_mem hmem
  -- The search ends at this brace, and what stands behind it is no document.
  have hheader : (joinedHeader (earlier ++ [.object gap ms])).toList
      = (front ++ '\x7b' :: before) ++ '\x7b' :: (back ++ ['\x7d']) := by
    rw [hfront, hinner]
    simp only [List.append_assoc, List.cons_append]
  rw [summary?_of_toList hheader (by simpa using hback)]
  cases hread : Json.read? (String.ofList ('\x7b' :: (back ++ ['\x7d']))) with
  | none => rfl
  | some d => exact absurd (nested_of_read? hread) (not_nested_of_inner_brace hnested)

end Joined

/-- The summary of a header with several objects is the last one as long as no brace stands in the
text of its members; otherwise there is none. -/
theorem last_summary_read (earlier : List Written) (gap : Gap) (ms : Members) :
    summary? (some (joinedHeader (earlier ++ [.object gap ms])))
      = if '\x7b' ∈ ms.chars then none else some (Entries.putAll [] ms.entries) := by
  by_cases h : '\x7b' ∈ ms.chars
  · rw [if_pos h]
    exact summary?_of_brace earlier gap h
  · rw [if_neg h]
    exact summary?_of_no_brace earlier gap h

/-! ## An inner object, and a brace in a string -/

theorem areSpaces_nil : ∀ c ∈ ([] : List Char), c ∈ [' ', '\t', '\n', '\r'] :=
  List.forall_mem_nil _

def noGap : Gap := ⟨[], areSpaces_nil⟩

/-- The object with one member. -/
def alone (name : List Letter) (d : Written) : Written :=
  .object noGap (.last name noGap noGap d noGap)

/-- Neither is read, though both are objects that arrive whole. -/
theorem last_summary_not_read :
    let a : List Letter := [.plain 'a' (by decide)]
    let inner := alone a (alone a .null)
    let brace := alone a (.text [.plain '\x7b' (by decide)])
    joinedHeader [inner] = "\x7b\"a\":\x7b\"a\":null\x7d\x7d"
      ∧ inner.value = .object [("a", .object [("a", .null)])]
      ∧ summary? (some (joinedHeader [inner])) = none
      ∧ joinedHeader [inner, brace]
        = "\x7b\"a\":\x7b\"a\":null\x7d\x7d, \x7b\"a\":\"\x7b\"\x7d"
      ∧ brace.value = .object [("a", .text "\x7b")]
      ∧ summary? (some (joinedHeader [inner, brace])) = none := by
  intro a inner brace
  refine ⟨by decide, rfl, ?_, by decide, rfl, ?_⟩
  · exact summary?_of_brace [] noGap (by decide)
  · exact summary?_of_brace [inner] noGap (by decide)

end QueryClient.Result
