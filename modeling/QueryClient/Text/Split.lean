/-!
# Cutting and joining texts

A text is cut at every occurrence of a separator and put together again with one between every two
pieces.
-/

namespace QueryClient.Text

variable {α : Type}

/-- The rest of a list after a given beginning. -/
def dropLeading? [BEq α] : List α → List α → Option (List α)
  | [], rest => some rest
  | _ :: _, [] => none
  | a :: as, b :: bs => if a == b then dropLeading? as bs else none

def startsWithChars (beginning cs : List Char) : Bool :=
  (dropLeading? beginning cs).isSome

/-- The elements up to a mark, when none that bars the way stands in front of it, and what follows
the mark. -/
def upToMark? [BEq α] (mark : α) (bars : α → Bool) : List α → Option (List α × List α)
  | [] => none
  | a :: rest =>
    if a == mark then some ([], rest)
    else if bars a then none
    else (upToMark? mark bars rest).map fun (before, after) => (a :: before, after)

theorem length_of_upToMark? [BEq α] {mark : α} {bars : α → Bool} {as before after : List α}
    (h : upToMark? mark bars as = some (before, after)) : after.length < as.length := by
  induction as generalizing before after with
  | nil => cases h
  | cons a rest ih =>
    simp only [upToMark?] at h
    split at h
    · cases h
      exact Nat.lt_succ_self _
    · split at h
      · cases h
      · simp only [Option.map_eq_some_iff, Prod.mk.injEq, Prod.exists] at h
        obtain ⟨_, _, hrest, -, rfl⟩ := h
        exact Nat.lt_succ_of_lt (ih hrest)

/-- A run of elements in front of a list that does not go on with it. -/
theorem takeWhile_append_run {p : α → Bool} {run rest : List α} (hrun : ∀ a ∈ run, p a = true)
    (hrest : ∀ a ∈ rest.head?, p a = false) :
    (run ++ rest).takeWhile p = run ∧ (run ++ rest).dropWhile p = rest := by
  rw [List.takeWhile_append_of_pos hrun, List.dropWhile_append_of_pos hrun]
  cases rest with
  | nil => exact ⟨List.append_nil run, rfl⟩
  | cons a rest => simp [hrest a rfl]

/-- Pieces of a list between the occurrences of one element. -/
def splitAtElement [BEq α] (separator : α) : List α → List (List α)
  | [] => [[]]
  | a :: rest =>
    if a == separator then [] :: splitAtElement separator rest
    else match splitAtElement separator rest with
      | piece :: pieces => (a :: piece) :: pieces
      | [] => [[a]]

section Pieces

variable [BEq α] {separator : α} {cs : List α}

theorem splitAtElement_ne_nil (separator : α) (cs : List α) : splitAtElement separator cs ≠ [] := by
  cases cs with
  | nil => exact List.cons_ne_nil _ _
  | cons a rest =>
    rw [splitAtElement]
    split
    · exact List.cons_ne_nil _ _
    · split <;> exact List.cons_ne_nil _ _

theorem splitAtElement_of_not_mem [LawfulBEq α] (h : separator ∉ cs) :
    splitAtElement separator cs = [cs] := by
  induction cs with
  | nil => rfl
  | cons a rest ih =>
    simp only [List.mem_cons, not_or] at h
    simp [splitAtElement, Ne.symm h.1, ih h.2]

theorem splitAtElement_append [LawfulBEq α] (separator : α) (cs rest : List α) :
    splitAtElement separator (cs ++ separator :: rest)
      = splitAtElement separator cs ++ splitAtElement separator rest := by
  induction cs with
  | nil => simp [splitAtElement]
  | cons a cs ih =>
    rw [List.cons_append, splitAtElement, splitAtElement, ih]
    cases a == separator with
    | true => rfl
    | false =>
      cases h : splitAtElement separator cs with
      | nil => exact absurd h (splitAtElement_ne_nil _ _)
      | cons piece pieces => rfl

theorem not_mem_of_mem_splitAtElement [LawfulBEq α] {piece : List α}
    (h : piece ∈ splitAtElement separator cs) : separator ∉ piece := by
  induction cs generalizing piece with
  | nil => simp only [splitAtElement, List.mem_singleton] at h; simp [h]
  | cons a rest ih =>
    rw [splitAtElement] at h
    split at h
    · rcases List.mem_cons.mp h with rfl | h
      · simp
      · exact ih h
    · rename_i ha
      have hne : separator ≠ a := by rintro rfl; simp at ha
      split at h
      · rename_i first pieces heq
        rcases List.mem_cons.mp h with rfl | h
        · simp [hne, ih (heq ▸ List.mem_cons_self)]
        · exact ih (heq ▸ List.mem_cons_of_mem _ h)
      · simp only [List.mem_singleton] at h
        simp [h, hne]

end Pieces

/-- Pieces of a text between the occurrences of a character. -/
def splitAtChar (separator : Char) (s : String) : List String :=
  (splitAtElement separator s.toList).map String.ofList

/-- Lists joined with a separator between every two. -/
def joinLists (separator : List α) : List (List α) → List α
  | [] => []
  | [piece] => piece
  | piece :: pieces => piece ++ separator ++ joinLists separator pieces

theorem joinLists_cons_cons (separator piece next : List α) (pieces : List (List α)) :
    joinLists separator (piece :: next :: pieces)
      = piece ++ separator ++ joinLists separator (next :: pieces) := rfl

theorem joinLists_concat (separator piece last : List α) (pieces : List (List α)) :
    joinLists separator (piece :: (pieces ++ [last]))
      = joinLists separator (piece :: pieces) ++ separator ++ last := by
  induction pieces generalizing piece with
  | nil => rfl
  | cons next pieces ih =>
    rw [List.cons_append, joinLists_cons_cons, joinLists_cons_cons, ih]
    simp only [List.append_assoc]

/-- Texts joined with a separator between every two. -/
def join (separator : String) : List String → String
  | [] => ""
  | [piece] => piece
  | piece :: pieces => piece ++ separator ++ join separator pieces

@[simp] theorem join_nil (separator : String) : join separator [] = "" := rfl

@[simp] theorem join_singleton (separator piece : String) : join separator [piece] = piece := rfl

theorem join_cons_cons (separator piece next : String) (pieces : List String) :
    join separator (piece :: next :: pieces)
      = piece ++ separator ++ join separator (next :: pieces) := rfl

end QueryClient.Text
