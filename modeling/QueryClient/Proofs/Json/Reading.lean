import QueryClient.Proofs.Json.Numerals
import QueryClient.Proofs.Json.Strings

/-!
# Reading documents

Each way of writing a document is read as the document it stands for, whatever comes behind it, as
long as a number is not continued there. The steps of the reader are stated first, one for each
kind of document; the rest follows the grammar.
-/

namespace QueryClient.Json

/-! ## White space -/

theorem Gap.isSpace (gap : Gap) : ∀ c ∈ gap.chars, isSpace c = true := by
  intro c hc
  have hall : ∀ c ∈ [' ', '\t', '\n', '\r'], Json.isSpace c = true := by decide
  exact hall c (gap.areSpaces c hc)

theorem skipSpace_gap (gap : Gap) (cs : List Char) : skipSpace (gap.chars ++ cs) = skipSpace cs :=
  List.dropWhile_append_of_pos gap.isSpace

theorem skipSpace_of_head {c : Char} (h : isSpace c = false) (cs : List Char) :
    skipSpace (c :: cs) = c :: cs :=
  List.dropWhile_cons_of_neg (by simp [h])

theorem skipSpace_gap_cons (gap : Gap) {c : Char} (h : isSpace c = false) (cs : List Char) :
    skipSpace (gap.chars ++ c :: cs) = c :: cs := by
  rw [skipSpace_gap, skipSpace_of_head h]

theorem stops_nil : Stops [] := by
  rintro c ⟨⟩

/-- White space ends a number. -/
theorem Stops.behind_gap {cs : List Char} (h : Stops cs) (gap : Gap) : Stops (gap.chars ++ cs) := by
  have hspaces : ∀ c ∈ [' ', '\t', '\n', '\r'], isDigit c = false ∧ c ∉ ['.', 'e', 'E'] := by
    decide
  intro c hc
  cases hgap : gap.chars with
  | nil =>
      rw [hgap] at hc
      exact h c hc
  | cons c' gap' =>
      rw [hgap] at hc
      cases hc
      exact hspaces c (gap.areSpaces c (by rw [hgap]; exact List.mem_cons_self))

/-- So does what stands behind an element. -/
theorem stops_closing {c : Char} (h : c ∈ [',', ']', '\x7d']) (cs : List Char) :
    Stops (c :: cs) := by
  have hclosing : ∀ c ∈ [',', ']', '\x7d'], isDigit c = false ∧ c ∉ ['.', 'e', 'E'] := by decide
  intro c' hc'
  cases hc'
  exact hclosing _ h

theorem stops_gap (gap : Gap) {c : Char} (h : c ∈ [',', ']', '\x7d']) (cs : List Char) :
    Stops (gap.chars ++ c :: cs) :=
  (stops_closing h cs).behind_gap gap

/-! ## What a document begins with -/

/-- A character that a document can begin with. -/
def Begins (c : Char) : Prop :=
  isSpace c = false ∧ c ≠ ']' ∧ c ≠ '\x7d'

/-- A number begins with a digit or a minus, and with nothing that begins another document. -/
theorem Numeral.begins (n : Numeral) :
    ∃ c cs, n.text = c :: cs ∧ Begins c ∧ c ∉ ['"', '[', '\x7b', 'n', 't', 'f'] := by
  have hdigit : ∀ d, Begins (digitChar d) ∧ digitChar d ∉ ['"', '[', '\x7b', 'n', 't', 'f'] := by
    unfold Begins; decide
  obtain ⟨d, ds, hwhole⟩ := n.exists_whole
  unfold Numeral.text Numeral.signChars
  cases n.negative with
  | true => exact ⟨'-', _, rfl, by unfold Begins; decide⟩
  | false =>
      rw [hwhole]
      exact ⟨digitChar d, _, rfl, hdigit d⟩

theorem Written.begins (w : Written) : ∃ c cs, w.chars = c :: cs ∧ Begins c := by
  cases w with
  | number n =>
      obtain ⟨c, cs, h, hbegins, -⟩ := n.begins
      exact ⟨c, cs, h, hbegins⟩
  | bool b => cases b <;> exact ⟨_, _, rfl, by unfold Begins; decide⟩
  | null | text letters | emptyArray inside | array before items | emptyObject inside
  | object before members => exact ⟨_, _, rfl, by unfold Begins; decide⟩

theorem Items.begins (items : Items) : ∃ c cs, items.chars = c :: cs ∧ Begins c := by
  cases items with
  | last item after =>
      obtain ⟨c, cs, h, hbegins⟩ := item.begins
      exact ⟨c, _, by rw [Items.chars, h]; rfl, hbegins⟩
  | more item after before rest =>
      obtain ⟨c, cs, h, hbegins⟩ := item.begins
      exact ⟨c, _, by rw [Items.chars, h]; rfl, hbegins⟩

theorem Members.begins (members : Members) : ∃ cs, members.chars = '"' :: cs := by
  cases members with
  | last | more => exact ⟨_, rfl⟩

/-! ## Scalars -/

theorem document_scalar {c : Char} (h : c ≠ '"' ∧ c ≠ '[' ∧ c ≠ '\x7b') (fuel : Nat)
    (cs : List Char) : document (fuel + 1) (c :: cs) = scalar (c :: cs) := by
  rw [document]
  · intro rest heq; exact h.1 (List.cons.inj heq).1
  · intro rest heq; exact h.2.1 (List.cons.inj heq).1
  · intro rest heq; exact h.2.2 (List.cons.inj heq).1

theorem namedNumber?_number (n : Numeral) (rest : List Char) :
    namedNumber? (n.text ++ rest) = none := by
  obtain ⟨d, ds, hwhole⟩ := n.exists_whole
  have hN := digitChar_ne d 'N' (by decide)
  have hI := digitChar_ne d 'I' (by decide)
  unfold Numeral.text Numeral.signChars
  rw [hwhole]
  cases n.negative with
  | false => simp [namedNumber?, hN, hI, digitChar_ne d '-' (by decide)]
  | true => simp [namedNumber?, hI]

theorem document_number (n : Numeral) {rest : List Char} (h : Stops rest) (fuel : Nat) :
    document (fuel + 1) (n.text ++ rest) = some (n.value, rest) := by
  obtain ⟨c, cs, htext, -, hc⟩ := n.begins
  have hnamed := namedNumber?_number n rest
  have hnumber := number_text n h
  simp only [List.mem_cons, List.not_mem_nil, or_false, not_or] at hc
  obtain ⟨hquote, hbracket, hbrace, hnull, htrue, hfalse⟩ := hc
  rw [htext, List.cons_append] at hnamed hnumber ⊢
  rw [document_scalar ⟨hquote, hbracket, hbrace⟩, scalar, hnamed]
  · exact hnumber
  · intro rest heq; exact hnull (List.cons.inj heq).1
  · intro rest heq; exact htrue (List.cons.inj heq).1
  · intro rest heq; exact hfalse (List.cons.inj heq).1

/-! ## Steps of reading -/

section Steps

variable {fuel : Nat} {cs rest : List Char}

theorem document_string {letters : List Char} (h : stringRest cs = some (letters, rest)) :
    document (fuel + 1) ('"' :: cs) = some (.text (String.ofList letters), rest) := by
  rw [document, h]
  rfl

theorem document_emptyArray (h : skipSpace cs = ']' :: rest) :
    document (fuel + 1) ('[' :: cs) = some (.array [], rest) := by
  rw [document, h]
  rfl

theorem document_array {items : List Document} (hne : ∀ rest, skipSpace cs ≠ ']' :: rest)
    (h : elements fuel (skipSpace cs) = some (items, rest)) :
    document (fuel + 1) ('[' :: cs) = some (.array items, rest) := by
  rw [document]
  split
  · exact absurd ‹_› (hne _)
  · rw [h]
    rfl

theorem document_emptyObject (h : skipSpace cs = '\x7d' :: rest) :
    document (fuel + 1) ('\x7b' :: cs) = some (.object [], rest) := by
  rw [document, h]
  rfl

theorem document_object {ms : List (String × Document)}
    (hne : ∀ rest, skipSpace cs ≠ '\x7d' :: rest)
    (h : members fuel [] (skipSpace cs) = some (ms, rest)) :
    document (fuel + 1) ('\x7b' :: cs) = some (.object ms, rest) := by
  rw [document]
  split
  · exact absurd ‹_› (hne _)
  · rw [h]
    rfl

variable {behind : List Char} {item : Document}

theorem elements_last (hitem : document fuel cs = some (item, behind))
    (h : skipSpace behind = ']' :: rest) : elements (fuel + 1) cs = some ([item], rest) := by
  rw [elements, hitem]
  simp only [h]

theorem elements_more {items : List Document} {more : List Char}
    (hitem : document fuel cs = some (item, behind)) (h : skipSpace behind = ',' :: more)
    (hitems : elements fuel (skipSpace more) = some (items, rest)) :
    elements (fuel + 1) cs = some (item :: items, rest) := by
  rw [elements, hitem]
  simp only [h, hitems, Option.map_some]

variable {before : List (String × Document)} {name afterName value : List Char}

theorem members_last (hname : stringRest cs = some (name, afterName))
    (hcolon : skipSpace afterName = ':' :: value)
    (hitem : document fuel (skipSpace value) = some (item, behind))
    (h : skipSpace behind = '\x7d' :: rest) :
    members (fuel + 1) before ('"' :: cs)
      = some (Entries.put (String.ofList name) item before, rest) := by
  rw [members, hname]
  simp only [hcolon, hitem, h]

theorem members_more {ms : List (String × Document)} {more : List Char}
    (hname : stringRest cs = some (name, afterName))
    (hcolon : skipSpace afterName = ':' :: value)
    (hitem : document fuel (skipSpace value) = some (item, behind))
    (h : skipSpace behind = ',' :: more)
    (hms : members fuel (Entries.put (String.ofList name) item before) (skipSpace more)
      = some (ms, rest)) :
    members (fuel + 1) before ('"' :: cs) = some (ms, rest) := by
  rw [members, hname]
  simp only [hcolon, hitem, h, hms]

end Steps

/-! ## What is written is read -/

/-- White space in front of a document is skipped, and no more. -/
theorem skipSpace_begins {chars : List Char} (h : ∃ c cs, chars = c :: cs ∧ Begins c) (gap : Gap)
    (rest : List Char) : skipSpace (gap.chars ++ (chars ++ rest)) = chars ++ rest := by
  obtain ⟨c, cs, rfl, hc⟩ := h
  exact skipSpace_gap_cons gap hc.1 (cs ++ rest)

theorem Members.skipSpace (ms : Members) (gap : Gap) (rest : List Char) :
    Json.skipSpace (gap.chars ++ (ms.chars ++ rest)) = ms.chars ++ rest := by
  obtain ⟨cs, h⟩ := ms.begins
  rw [h]
  exact skipSpace_gap_cons gap (by decide) (cs ++ rest)

theorem ne_bracket_of_begins {chars : List Char} (h : ∃ c cs, chars = c :: cs ∧ Begins c)
    (rest more : List Char) : chars ++ rest ≠ ']' :: more := by
  obtain ⟨c, cs, rfl, hc⟩ := h
  exact fun heq => hc.2.1 (List.cons.inj heq).1

theorem Members.ne_brace (ms : Members) (rest more : List Char) :
    ms.chars ++ rest ≠ '\x7d' :: more := by
  obtain ⟨cs, h⟩ := ms.begins
  rw [h]
  exact fun heq => absurd (List.cons.inj heq).1 (by decide)

mutual

/-- A document is read to its end. Two steps for each character are enough. -/
theorem document_chars : (w : Written) → {fuel : Nat} → 2 * w.chars.length ≤ fuel →
    {rest : List Char} → Stops rest → document fuel (w.chars ++ rest) = some (w.value, rest)
  | w, 0, hfuel, rest, _ => by
      obtain ⟨c, cs, h, -⟩ := w.begins
      rw [h, List.length_cons] at hfuel
      omega
  | .null, fuel + 1, _, rest, _ => by
      rw [Written.chars, List.cons_append, document_scalar (by decide)]
      rfl
  | .bool true, fuel + 1, _, rest, _ => by
      rw [Written.chars, List.cons_append, document_scalar (by decide)]
      rfl
  | .bool false, fuel + 1, _, rest, _ => by
      rw [Written.chars, List.cons_append, document_scalar (by decide)]
      rfl
  | .number n, fuel + 1, _, rest, h => document_number n h fuel
  | .text letters, fuel + 1, _, rest, _ => by
      have hread := stringRest_letters letters rest
      simp only [Written.chars, stringText, List.cons_append, List.append_assoc, List.nil_append]
      exact document_string hread
  | .emptyArray inside, fuel + 1, _, rest, _ => by
      simp only [Written.chars, List.cons_append, List.append_assoc, List.nil_append]
      exact document_emptyArray (skipSpace_gap_cons inside (by decide) rest)
  | .array before items, fuel + 1, hfuel, rest, _ => by
      simp only [Written.chars, List.cons_append, List.append_assoc, List.length_cons,
        List.length_append] at hfuel ⊢
      have hskip := skipSpace_begins items.begins before rest
      refine document_array (fun more => ?_) ?_
      · rw [hskip]
        exact ne_bracket_of_begins items.begins rest more
      · rw [hskip]
        exact elements_chars items (by omega) rest
  | .emptyObject inside, fuel + 1, _, rest, _ => by
      simp only [Written.chars, List.cons_append, List.append_assoc, List.nil_append]
      exact document_emptyObject (skipSpace_gap_cons inside (by decide) rest)
  | .object before ms, fuel + 1, hfuel, rest, _ => by
      simp only [Written.chars, List.cons_append, List.append_assoc, List.length_cons,
        List.length_append] at hfuel ⊢
      have hskip := ms.skipSpace before rest
      refine document_object (fun more => ?_) ?_
      · rw [hskip]
        exact ms.ne_brace rest more
      · rw [hskip]
        exact members_chars ms (by omega) [] rest

theorem elements_chars : (items : Items) → {fuel : Nat} → 2 * items.chars.length + 1 ≤ fuel →
    (rest : List Char) → elements fuel (items.chars ++ rest) = some (items.values, rest)
  | .last item after, fuel + 1, hfuel, rest => by
      simp only [Items.chars, List.append_assoc, List.cons_append, List.nil_append,
        List.length_append] at hfuel ⊢
      exact elements_last (document_chars item (by omega) (stops_gap after (by decide) rest))
        (skipSpace_gap_cons after (by decide) rest)
  | .more item after before items, fuel + 1, hfuel, rest => by
      simp only [Items.chars, List.append_assoc, List.cons_append, List.length_append,
        List.length_cons] at hfuel ⊢
      refine elements_more (document_chars item (by omega) (stops_gap after (by decide) _))
        (skipSpace_gap_cons after (by decide) _) ?_
      rw [skipSpace_begins items.begins before rest]
      exact elements_chars items (by omega) rest

theorem members_chars : (ms : Members) → {fuel : Nat} → 2 * ms.chars.length + 1 ≤ fuel →
    (before : List (String × Document)) → (rest : List Char) →
    members fuel before (ms.chars ++ rest) = some (Entries.putAll before ms.entries, rest)
  | .last name afterName beforeItem item after, fuel + 1, hfuel, before, rest => by
      simp only [Members.chars, stringText, List.append_assoc, List.cons_append, List.nil_append,
        List.length_append, List.length_cons] at hfuel ⊢
      have hitem : document fuel (skipSpace (beforeItem.chars
          ++ (item.chars ++ (after.chars ++ '\x7d' :: rest))))
          = some (item.value, after.chars ++ '\x7d' :: rest) := by
        rw [skipSpace_begins item.begins]
        exact document_chars item (by omega) (stops_gap after (by decide) rest)
      exact members_last (stringRest_letters name _) (skipSpace_gap_cons afterName (by decide) _)
        hitem (skipSpace_gap_cons after (by decide) rest)
  | .more name afterName beforeItem item after behind ms, fuel + 1, hfuel, before, rest => by
      simp only [Members.chars, stringText, List.append_assoc, List.cons_append, List.nil_append,
        List.length_append, List.length_cons] at hfuel ⊢
      have hitem : document fuel (skipSpace (beforeItem.chars
          ++ (item.chars ++ (after.chars ++ ',' :: (behind.chars ++ (ms.chars ++ rest))))))
          = some (item.value, after.chars ++ ',' :: (behind.chars ++ (ms.chars ++ rest))) := by
        rw [skipSpace_begins item.begins]
        exact document_chars item (by omega) (stops_gap after (by decide) _)
      have hms := members_chars ms (show 2 * ms.chars.length + 1 ≤ fuel by omega)
        (Entries.put (lettersValue name) item.value before) rest
      rw [← ms.skipSpace behind rest] at hms
      exact members_more (stringRest_letters name _) (skipSpace_gap_cons afterName (by decide) _)
        hitem (skipSpace_gap_cons after (by decide) _) hms

end

/-- A text that holds a document is read as that document. -/
theorem read?_written (w : Written) (before after : Gap) :
    read? (String.ofList (before.chars ++ (w.chars ++ after.chars))) = some w.value := by
  have hstops : Stops after.chars := by
    have h := stops_nil.behind_gap after
    rwa [List.append_nil] at h
  have hread := document_chars w
    (show 2 * w.chars.length ≤ 2 * (before.chars ++ (w.chars ++ after.chars)).length + 2 by
      simp only [List.length_append]; omega) hstops
  have hafter : skipSpace after.chars = [] := by
    have h := skipSpace_gap after []
    rwa [List.append_nil] at h
  rw [read?, String.length_ofList, String.toList_ofList, skipSpace_begins w.begins, hread]
  simp only [hafter, List.isEmpty_nil, ↓reduceIte]

end QueryClient.Json
