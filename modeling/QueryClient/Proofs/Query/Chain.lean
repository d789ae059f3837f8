import QueryClient.Proofs.Query.Fragments

/-!
# Conditions in a row

Conditions are written with the words that join them, and the word in front of the first one is
left out. Whether a word is left out depends on the word alone, not on the condition behind it, so
that a chain of conditions and the chain of their results lose the same word.
-/

namespace QueryClient

open Sql (Inert Aligned AlignedAll)

/-- Conditions in a row, each with an inert word in front of it that its result keeps. -/
inductive Chained : List String → List Value → List String → Prop
  | nil : Chained [] [] []
  | cons {boolean t ts vs ws out outs} (word : Inert boolean.toList) (head : Aligned t vs out)
      (tail : Chained ts ws outs) :
      Chained (Grammar.joined boolean t :: ts) (vs ++ ws) (Grammar.joined boolean out :: outs)

/-! ## The word in front -/

namespace Grammar

theorem startsWithWord_cons (w c : Char) (word cs : List Char) :
    startsWithWord (w :: word) (c :: cs) = (c.toLower == w && startsWithWord word cs) := by
  simp [startsWithWord]

/-- Whether a text starts with a word is decided by what stands up to its first space. -/
theorem startsWithWord_append {word : List Char} (hw : ' ' ∉ word) (boolean cs : List Char) :
    startsWithWord word (boolean ++ [' '] ++ cs) = startsWithWord word (boolean ++ [' ']) := by
  induction word generalizing boolean with
  | nil => cases boolean <;> simp [startsWithWord]
  | cons w word ih =>
      simp only [List.mem_cons, not_or] at hw
      cases boolean with
      | nil =>
          have hspace : ((' ' : Char).toLower == w) = false := by simpa using hw.1
          simp only [List.nil_append, List.singleton_append, startsWithWord_cons, hspace,
            Bool.false_and]
      | cons c boolean =>
          simp only [List.cons_append, startsWithWord_cons]
          rw [ih hw.2 boolean]

theorem length_le_of_startsWithWord {word cs : List Char} (h : startsWithWord word cs = true) :
    word.length + 1 ≤ cs.length := by
  have hlen := congrArg List.length (eq_of_beq h)
  simp only [List.length_map, List.length_take, List.length_append, List.length_singleton] at hlen
  omega

theorem isPlain_of_toLower {c : Char} (h : Sql.isPlain c.toLower = true) :
    Sql.isPlain c = true := by
  have hne : ∀ d : Char, Sql.isPlain d.toLower = false → c ≠ d := by
    rintro d hd rfl; rw [h] at hd; cases hd
  simp [Sql.isPlain, Sql.isQuote, hne '\'' (by decide), hne '"' (by decide),
    hne '\x60' (by decide), hne '?' (by decide)]

theorem inert_drop_word {word cs : List Char} (h : startsWithWord word cs = true)
    (hw : (word ++ [' ']).all Sql.isPlain = true) (hcs : Inert cs) :
    Inert (cs.drop (word.length + 1)) := by
  rw [← List.take_append_drop (word.length + 1) cs] at hcs
  refine Inert.of_append (Inert.ofPlain fun c hc => ?_) hcs
  refine isPlain_of_toLower (List.all_eq_true.mp hw _ ?_)
  rw [← eq_of_beq h]
  exact List.mem_map_of_mem hc

/-- Leaving out the first word keeps what stands behind it. -/
theorem withoutLeadingBoolean_joined {boolean : String} (h : Inert boolean.toList) :
    ∃ kept : String, Inert kept.toList
      ∧ ∀ t, withoutLeadingBoolean (joined boolean t) = kept ++ t := by
  have hword : Inert (boolean.toList ++ [' ']) := h.append (by decide)
  have hlist : ∀ t : String, (joined boolean t).toList = boolean.toList ++ [' '] ++ t.toList := by
    intro t
    simp only [joined, String.toList_append]
    rfl
  have hdrop : ∀ word, startsWithWord word (boolean.toList ++ [' ']) = true →
      (word ++ [' ']).all Sql.isPlain = true → ∃ kept : String, Inert kept.toList ∧ ∀ t : String,
        String.ofList ((boolean.toList ++ [' '] ++ t.toList).drop (word.length + 1)) = kept ++ t := by
    intro word hstart hplain
    refine ⟨String.ofList ((boolean.toList ++ [' ']).drop (word.length + 1)), ?_, fun t => ?_⟩
    · rw [String.toList_ofList]
      exact inert_drop_word hstart hplain hword
    · rw [List.drop_append_of_le_length (length_le_of_startsWithWord hstart), String.ofList_append,
        String.ofList_toList]
  by_cases hand : startsWithWord ['a', 'n', 'd'] (boolean.toList ++ [' ']) = true
  · obtain ⟨kept, hkept, heq⟩ := hdrop _ hand (by decide)
    refine ⟨kept, hkept, fun t => ?_⟩
    rw [withoutLeadingBoolean, hlist, startsWithWord_append (by decide), if_pos hand]
    exact heq t
  · by_cases hor : startsWithWord ['o', 'r'] (boolean.toList ++ [' ']) = true
    · obtain ⟨kept, hkept, heq⟩ := hdrop _ hor (by decide)
      refine ⟨kept, hkept, fun t => ?_⟩
      rw [withoutLeadingBoolean, hlist, startsWithWord_append (by decide), if_neg hand,
        startsWithWord_append (by decide), if_pos hor]
      exact heq t
    · refine ⟨boolean ++ " ", ?_, fun t => ?_⟩
      · rw [String.toList_append]; exact hword
      · rw [withoutLeadingBoolean, hlist, startsWithWord_append (by decide), if_neg hand,
          startsWithWord_append (by decide), if_neg hor]
        rfl

theorem join_joined (boolean t : String) (ts : List String) :
    Text.join " " (joined boolean t :: ts) = joined boolean (Text.join " " (t :: ts)) := by
  cases ts with
  | nil => rfl
  | cons next ts => simp only [Text.join_cons_cons, joined, String.append_assoc]

end Grammar

/-! ## Chains as texts -/

namespace Chained

variable {ts outs : List String} {vs : List Value}

theorem all (h : Chained ts vs outs) : AlignedAll ts vs outs := by
  induction h with
  | nil => exact .nil
  | cons word head _ ih =>
      exact .cons (head.inert_append (word.append_text (t := " ") (by decide))) ih

theorem isEmpty_eq (h : Chained ts vs outs) : outs.isEmpty = ts.isEmpty :=
  h.all.isEmpty_eq

theorem sequenced (h : Chained ts vs outs) :
    Aligned (Grammar.sequenced ts) vs (Grammar.sequenced outs) := by
  cases h with
  | nil => exact Sql.aligned_empty
  | cons word head tail =>
      obtain ⟨kept, hkept, heq⟩ := Grammar.withoutLeadingBoolean_joined word
      simp only [Grammar.sequenced, Grammar.join_joined, heq]
      exact ((AlignedAll.cons head tail.all).join (by decide)).inert_append hkept

theorem introduced {word : String} (hword : Inert word.toList) (h : Chained ts vs outs) :
    Aligned (Grammar.introduced word ts) vs (Grammar.introduced word outs) := by
  unfold Grammar.introduced
  rw [h.isEmpty_eq]
  split
  · rename_i hempty
    rw [h.all.values_eq_nil hempty]
    exact Sql.aligned_empty
  · exact h.sequenced.inert_append (hword.append_text (by decide))

end Chained

end QueryClient
