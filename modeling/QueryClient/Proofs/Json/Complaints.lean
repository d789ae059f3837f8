import QueryClient.Json.Complaint
import QueryClient.Proofs.Json.Nesting

/-!
# Complaints point into the text

What is said to be wrong with a text is wrong at a place in it, and the number that is told of the
place is the number of characters in front of it.
-/

namespace QueryClient.Json

theorem Past.suffix {cs rest : List Char} (h : Past cs rest) : rest <:+ cs :=
  h.imp fun _ hpart => hpart.1.symm

theorem skipSpace_suffix (cs : List Char) : skipSpace cs <:+ cs :=
  List.dropWhile_suffix isSpace

/-- Behind a mark that white space leads to. -/
theorem suffix_of_skipSpace {c : Char} {cs rest : List Char} (h : skipSpace cs = c :: rest) :
    skipSpace rest <:+ cs :=
  (skipSpace_suffix rest).trans ((List.suffix_cons c rest).trans (h ▸ skipSpace_suffix cs))

theorem stringComplaint_suffix {opened cs : List Char} (h : cs <:+ opened) :
    (stringComplaint opened cs).rest <:+ opened := by
  fun_induction stringComplaint opened cs with
  | case1 => exact List.suffix_rfl
  | case2 a b c d e rest hunit ih =>
      exact ih ((List.suffix_append ['\\', 'u', a, b, c, d] (e :: rest)).trans h)
  | case3 | case4 => exact (List.suffix_cons _ _).trans h
  | case5 c rest _ _ hescaped ih => exact ih ((List.suffix_append ['\\', c] rest).trans h)
  | case6 | case7 => exact h
  | case8 c rest _ _ _ _ ih => exact ih ((List.suffix_cons c rest).trans h)

mutual

theorem documentComplaint_suffix : (fuel : Nat) → (cs : List Char) →
    (documentComplaint fuel cs).rest <:+ cs
  | 0, cs => List.suffix_rfl
  | fuel + 1, cs => by
      unfold documentComplaint
      split
      · exact stringComplaint_suffix (List.suffix_cons _ _)
      · rename_i rest
        exact (elementsComplaint_suffix fuel _).trans
          ((skipSpace_suffix rest).trans (List.suffix_cons _ _))
      · rename_i rest
        exact (membersComplaint_suffix fuel _).trans
          ((skipSpace_suffix rest).trans (List.suffix_cons _ _))
      · exact List.suffix_rfl

theorem elementsComplaint_suffix : (fuel : Nat) → (cs : List Char) →
    (elementsComplaint fuel cs).rest <:+ cs
  | 0, cs => List.suffix_rfl
  | fuel + 1, cs => by
      unfold elementsComplaint
      split
      · exact documentComplaint_suffix fuel cs
      · rename_i item rest hread
        have hrest := (document_past hread).suffix
        split
        · rename_i behind hskip
          exact (elementsComplaint_suffix fuel _).trans ((suffix_of_skipSpace hskip).trans hrest)
        · exact (skipSpace_suffix rest).trans hrest

theorem membersComplaint_suffix : (fuel : Nat) → (cs : List Char) →
    (membersComplaint fuel cs).rest <:+ cs
  | 0, cs => List.suffix_rfl
  | fuel + 1, cs => by
      unfold membersComplaint
      split
      · rename_i opened
        have hopened : opened <:+ '"' :: opened := List.suffix_cons _ _
        split
        · exact stringComplaint_suffix hopened
        · rename_i name rest hname
          have hrest := (Past.string hname).suffix
          split
          · rename_i behind hcolon
            have hbehind := (suffix_of_skipSpace hcolon).trans hrest
            split
            · exact (documentComplaint_suffix fuel _).trans hbehind
            · rename_i v rest' hread
              have hrest' := (document_past hread).suffix.trans hbehind
              split
              · rename_i behind' hcomma
                exact (membersComplaint_suffix fuel _).trans
                  ((suffix_of_skipSpace hcomma).trans hrest')
              · exact (skipSpace_suffix rest').trans hrest'
          · exact (skipSpace_suffix rest).trans hrest
      · exact List.suffix_rfl

end

theorem complaint_suffix (s : String) : (complaint s).rest <:+ s.toList := by
  unfold complaint
  split
  · rename_i rest htext
    exact htext ▸ List.suffix_rfl
  · simp only
    have hskip := skipSpace_suffix s.toList
    split
    · rename_i d rest hread
      exact (skipSpace_suffix rest).trans ((document_past hread).suffix.trans hskip)
    · exact (documentComplaint_suffix _ _).trans hskip

/-- The number that is told of the place leads to it. -/
theorem drop_placeIn_complaint (s : String) :
    s.toList.drop (placeIn s (complaint s).rest).2.2 = (complaint s).rest := by
  have hlength := (complaint_suffix s).length_le
  rw [String.length_toList] at hlength
  simp only [placeIn, List.length_take, String.length_toList, Nat.min_eq_left (Nat.sub_le _ _)]
  exact (List.suffix_iff_eq_drop.mp (complaint_suffix s)).symm

/-- A string that does not end, two lines into the text. -/
example : (complaint "[1,\n\n \"a").describe "[1,\n\n \"a"
    = "Unterminated string starting at: line 3 column 2 (char 6)" := by decide +kernel

end QueryClient.Json
