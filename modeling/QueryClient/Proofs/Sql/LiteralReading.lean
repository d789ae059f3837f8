import QueryClient.Proofs.Text.Padding
import QueryClient.Sql.Literal
import QueryClient.Text.Split

/-!
# Reading literals back

A reader for the literals of null, whole numbers, texts and lists of these, told from the notation
alone. What is written for such a value is read to its end and gives the value back, so that no two
values share a literal; and a text between quotes ends where it was closed, whatever follows.
-/

namespace QueryClient

namespace Value

mutual

/-- Null, whole numbers, texts and lists of these. -/
def isLegible : Value → Bool
  | null | int _ | text _ => true
  | list items => areLegible items
  | _ => false

def areLegible : List Value → Bool
  | [] => true
  | v :: rest => isLegible v && areLegible rest

end

end Value

namespace Sql

/-! ## The reader -/

/-- What a character stands for behind a backslash. -/
def unescaped (c : Char) : Char :=
  if c = 'n' then '\n'
  else if c = 't' then '\t'
  else if c = 'r' then '\r'
  else if c = '0' then '\x00'
  else c

/-- The text in front of the quote that ends a string literal, and what follows the quote. -/
def readText : List Char → Option (List Char × List Char)
  | [] => none
  | ['\\'] => none
  | '\\' :: c :: rest => (readText rest).map fun (cs, rest) => (unescaped c :: cs, rest)
  | c :: rest =>
    if c = '\'' then some ([], rest)
    else (readText rest).map fun (cs, rest) => (c :: cs, rest)

/-- A number without sign, and what follows its digits. -/
def readNatural (cs : List Char) : Option (Nat × List Char) :=
  let digits := cs.takeWhile Char.isDigit
  if digits.isEmpty then none
  else some (Nat.ofDigitChars 10 digits 0, cs.dropWhile Char.isDigit)

def readInteger : List Char → Option (Int × List Char)
  | '-' :: rest => (readNatural rest).map fun (n, rest) => (-(n : Int), rest)
  | cs => (readNatural cs).map fun (n, rest) => ((n : Int), rest)

mutual

/-- The value of the literal in front of a text, and what follows it; `fuel` bounds the number of
steps. -/
def readWithin : Nat → List Char → Option (Value × List Char)
  | 0, _ => none
  | fuel + 1, cs =>
    match cs with
    | 'N' :: 'U' :: 'L' :: 'L' :: rest => some (.null, rest)
    | '\'' :: rest => (readText rest).map fun (cs, rest) => (.text (String.ofList cs), rest)
    | '[' :: ']' :: rest => some (.list [], rest)
    | '[' :: rest => (readItems fuel rest).map fun (items, rest) => (.list items, rest)
    | _ => (readInteger cs).map fun (n, rest) => (.int n, rest)

/-- The items of a list, of which there is at least one, up to its end. -/
def readItems : Nat → List Char → Option (List Value × List Char)
  | 0, _ => none
  | fuel + 1, cs =>
    match readWithin fuel cs with
    | some (v, ',' :: ' ' :: rest) =>
      (readItems fuel rest).map fun (items, rest) => (v :: items, rest)
    | some (v, ']' :: rest) => some ([v], rest)
    | _ => none

end

/-- The value of the literal in front of a text, and what follows it. Every step takes a character,
which bounds their number. -/
def readLiteral (cs : List Char) : Option (Value × List Char) :=
  readWithin (cs.length + 1) cs

/-! ## Texts -/

theorem unescaped_of_escapeLetter {c letter : Char} (h : escapeLetter? c = some letter) :
    unescaped letter = c := by
  unfold escapeLetter? at h
  split at h
  · cases h; subst_vars; decide
  split at h
  · cases h; subst_vars; decide
  split at h
  · cases h; subst_vars; decide
  split at h
  · cases h; subst_vars; decide
  split at h
  · cases h; subst_vars; decide
  split at h
  · cases h; subst_vars; decide
  · cases h

theorem readText_escapeChar (c : Char) (cs : List Char) :
    readText (escapeChar c ++ cs) = (readText cs).map fun (ds, rest) => (c :: ds, rest) := by
  unfold escapeChar
  split
  · rename_i letter h
    simp only [List.cons_append, List.nil_append, readText, unescaped_of_escapeLetter h]
  · rename_i h
    have hslash : c ≠ '\\' := by rintro rfl; simp [escapeLetter?] at h
    have hquote : c ≠ '\'' := by rintro rfl; simp [escapeLetter?] at h
    simp [readText, hslash, hquote]

theorem readText_escaped (cs rest : List Char) :
    readText (cs.flatMap escapeChar ++ '\'' :: rest) = some (cs, rest) := by
  induction cs with
  | nil => simp [readText]
  | cons c cs ih =>
      rw [List.flatMap_cons, List.append_assoc, readText_escapeChar, ih]
      rfl

theorem toList_text (s : String) (rest : List Char) : (literal (.text s)).toList ++ rest
    = '\'' :: (s.toList.flatMap escapeChar ++ '\'' :: rest) := by
  simp [literal, quoteText, quoteChars]

theorem readWithin_text (s : String) (fuel : Nat) (rest : List Char) :
    readWithin (fuel + 1) ((literal (.text s)).toList ++ rest) = some (.text s, rest) := by
  simp [toList_text, readWithin, readText_escaped]

/-! ## Whole numbers -/

/-- Nothing stands in front that could belong to a number. -/
def Undigited (cs : List Char) : Prop :=
  ∀ c ∈ cs.head?, c.isDigit = false

theorem readNatural_repr (n : Nat) {rest : List Char} (hrest : Undigited rest) :
    readNatural ((toString n).toList ++ rest) = some (n, rest) := by
  have hdigits : ∀ c ∈ (toString n).toList, c.isDigit = true := fun c => Text.isDigit_of_mem_repr
  obtain ⟨htake, hdrop⟩ := Text.takeWhile_append_run hdigits hrest
  have hvalue : Nat.ofDigitChars 10 (toString n).toList 0 = n := by
    rw [show toString n = n.repr from rfl, Nat.toList_repr]
    exact Nat.ofDigitChars_ten_toDigits
  simp only [readNatural, htake, hdrop, hvalue]
  rw [if_neg (by simp)]

theorem readInteger_int (n : Int) {rest : List Char} (hrest : Undigited rest) :
    readInteger ((toString n).toList ++ rest) = some (n, rest) := by
  cases n with
  | ofNat n =>
      have hread := readNatural_repr n hrest
      obtain ⟨c, cs, hcs⟩ := List.exists_cons_of_ne_nil (Text.repr_ne_nil n)
      have hdigit : c.isDigit = true := Text.isDigit_of_mem_repr (hcs ▸ List.mem_cons_self)
      have hminus : c ≠ '-' := by rintro rfl; cases hdigit
      rw [show toString (Int.ofNat n) = toString n from rfl]
      rw [hcs, List.cons_append] at hread ⊢
      simp [readInteger, hminus, hread]
  | negSucc n =>
      have hread := readNatural_repr (n + 1) hrest
      rw [show toString (Int.negSucc n) = "-" ++ toString (n + 1) from rfl, String.toList_append,
        List.append_assoc, show "-".toList = ['-'] from rfl, List.singleton_append, readInteger,
        hread]
      rfl

/-! ## Values -/

/-- The first character of a literal ends no list. -/
theorem literal_head {v : Value} (h : v.isLegible = true) :
    ∃ c cs, (literal v).toList = c :: cs ∧ c ≠ ']' := by
  cases v with
  | null => exact ⟨'N', _, rfl, by decide⟩
  | int n =>
      obtain ⟨c, cs, hcs⟩ := List.exists_cons_of_ne_nil (Text.int_ne_nil n)
      refine ⟨c, cs, by rw [literal, hcs], ?_⟩
      rcases Text.mem_int (hcs ▸ List.mem_cons_self : c ∈ (toString n).toList) with rfl | hdigit
      · decide
      · rintro rfl; cases hdigit
  | text s => exact ⟨'\'', _, by simpa using toList_text s [], by decide⟩
  | list items =>
      rw [literal, String.toList_append, String.toList_append]
      exact ⟨'[', _, rfl, by decide⟩
  | _ => simp [Value.isLegible] at h

theorem literalItems_head {v : Value} {items : List Value}
    (h : Value.areLegible (v :: items) = true) :
    ∃ c cs, (literalItems (v :: items)).toList = c :: cs ∧ c ≠ ']' := by
  rw [Value.areLegible, Bool.and_eq_true] at h
  obtain ⟨c, cs, hcs, hc⟩ := literal_head h.1
  cases items with
  | nil => exact ⟨c, cs, by rw [literalItems, hcs], hc⟩
  | cons w items => exact ⟨c, _, by simp only [literalItems, String.toList_append, hcs]; rfl, hc⟩

theorem readWithin_int (n : Int) (fuel : Nat) {rest : List Char} (hrest : Undigited rest) :
    readWithin (fuel + 1) ((toString n).toList ++ rest) = some (.int n, rest) := by
  obtain ⟨c, cs, hcs⟩ := List.exists_cons_of_ne_nil (Text.int_ne_nil n)
  have hread := readInteger_int n hrest
  have hc : c = '-' ∨ c.isDigit = true := Text.mem_int (hcs ▸ List.mem_cons_self)
  have hne : c ≠ 'N' ∧ c ≠ '\'' ∧ c ≠ '[' := by
    rcases hc with rfl | hdigit
    · decide
    · refine ⟨?_, ?_, ?_⟩ <;> (rintro rfl; cases hdigit)
  rw [hcs, List.cons_append] at hread ⊢
  simp [readWithin, hne, hread]

theorem undigited_nil : Undigited [] := by
  intro c hc
  cases hc

theorem undigited_cons {c : Char} (h : c.isDigit = false) (cs : List Char) :
    Undigited (c :: cs) := by
  intro d hd
  cases hd
  exact h

mutual

theorem readWithin_literal (v : Value) (h : v.isLegible = true) {fuel : Nat} {rest : List Char}
    (hfuel : (literal v).toList.length < fuel) (hrest : Undigited rest) :
    readWithin fuel ((literal v).toList ++ rest) = some (v, rest) := by
  obtain ⟨fuel, rfl⟩ := Nat.exists_eq_add_of_lt (Nat.zero_lt_of_lt hfuel)
  rw [Nat.zero_add] at hfuel ⊢
  cases v with
  | null => simp [literal, readWithin]
  | int n => rw [literal]; exact readWithin_int n fuel hrest
  | text s => exact readWithin_text s fuel rest
  | list items =>
      rw [Value.isLegible] at h
      have hlist : (literal (.list items)).toList ++ rest
          = '[' :: ((literalItems items).toList ++ ']' :: rest) := by simp [literal]
      have hlength : (literal (.list items)).toList.length
          = (literalItems items).toList.length + 2 := by simp [literal]
      rw [hlist]
      cases items with
      | nil => simp [literalItems, readWithin]
      | cons v items =>
          have hitems : readItems fuel ((literalItems (v :: items)).toList ++ ']' :: rest)
              = some (v :: items, rest) :=
            readItems_literalItems (v :: items) (List.cons_ne_nil _ _) h (by omega)
          obtain ⟨c, cs, hcs, hc⟩ := literalItems_head h
          rw [hcs, List.cons_append] at hitems ⊢
          simp [readWithin, hc, hitems]
  | _ => simp [Value.isLegible] at h
termination_by sizeOf v

theorem readItems_literalItems (items : List Value) (hitems : items ≠ [])
    (h : Value.areLegible items = true) {fuel : Nat} {rest : List Char}
    (hfuel : (literalItems items).toList.length + 1 < fuel) :
    readItems fuel ((literalItems items).toList ++ ']' :: rest) = some (items, rest) := by
  obtain ⟨fuel, rfl⟩ := Nat.exists_eq_add_of_lt (Nat.zero_lt_of_lt hfuel)
  rw [Nat.zero_add] at hfuel ⊢
  cases items with
  | nil => exact absurd rfl hitems
  | cons v items =>
      rw [Value.areLegible, Bool.and_eq_true] at h
      cases items with
      | nil =>
          rw [literalItems] at hfuel ⊢
          rw [readItems, readWithin_literal v h.1 (by omega) (undigited_cons (by decide) _)]
          rfl
      | cons w items =>
          have htext : (literalItems (v :: w :: items)).toList ++ ']' :: rest = (literal v).toList
              ++ ',' :: ' ' :: ((literalItems (w :: items)).toList ++ ']' :: rest) := by
            simp [literalItems]
          have hlength : (literalItems (v :: w :: items)).toList.length = (literal v).toList.length
              + (literalItems (w :: items)).toList.length + 2 := by simp [literalItems]; omega
          have hmore : readItems fuel ((literalItems (w :: items)).toList ++ ']' :: rest)
              = some (w :: items, rest) :=
            readItems_literalItems (w :: items) (List.cons_ne_nil _ _) h.2 (by omega)
          rw [htext, readItems, readWithin_literal v h.1 (by omega) (undigited_cons (by decide) _)]
          simp only [hmore, Option.map_some]
termination_by sizeOf items

end

theorem readLiteral_literal {v : Value} (h : v.isLegible = true) {rest : List Char}
    (hrest : Undigited rest) : readLiteral ((literal v).toList ++ rest) = some (v, rest) :=
  readWithin_literal v h (by rw [List.length_append]; omega) hrest

theorem literal_injective {v w : Value} (hv : v.isLegible = true) (hw : w.isLegible = true)
    (h : literal v = literal w) : v = w := by
  have hread : readLiteral ((literal v).toList ++ []) = some (v, []) :=
    readLiteral_literal hv undigited_nil
  rw [h, readLiteral_literal hw undigited_nil] at hread
  cases hread
  rfl

/-- Literals of null, whole numbers, texts and lists of these are read back, no two of these values
share one, and a text between quotes ends where it was closed. -/
theorem literal_faithful :
    (∀ v : Value, v.isLegible = true → readLiteral (literal v).toList = some (v, []))
      ∧ (∀ v w : Value, v.isLegible = true → w.isLegible = true → literal v = literal w → v = w)
      ∧ ∀ (s : String) (rest : List Char),
        readLiteral ((literal (.text s)).toList ++ rest) = some (.text s, rest) := by
  refine ⟨fun v hv => ?_, fun v w hv hw h => literal_injective hv hw h, fun s rest => ?_⟩
  · rw [← List.append_nil (literal v).toList]
    exact readLiteral_literal hv undigited_nil
  · exact readWithin_text s _ rest

/-- Quotes, escapes, brackets and commas inside texts, and a list of lists. -/
theorem literal_faithful_nested :
    let v : Value := .list [.text "], '\\', [", .null, .list [],
      .list [.int (-120), .text "\\n\n\x00", .text ""]]
    literal v = "['], \\'\\\\\\', [', NULL, [], [-120, '\\\\n\\n\\0', '']]"
      ∧ v.isLegible = true ∧ readLiteral (literal v).toList = some (v, []) := by
  intro v
  have hv : v.isLegible = true := rfl
  exact ⟨rfl, hv, literal_faithful.1 v hv⟩

end Sql

end QueryClient
