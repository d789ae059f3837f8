import QueryClient.Proofs.Json.Extension

/-!
# Quotes and braces of documents

Reading a text from its start, one knows at each place whether it lies in a string and how many
braces are open. A document leaves both as they were, and it has no backslash outside its strings.
So no end of an object that begins with one of its inner braces is a document: either too many
braces are closed in it, or what lies in its strings and what lies outside are mixed up.
-/

namespace QueryClient.Json

/-! ## Places -/

/-- How a place in a text lies to the strings in it. -/
inductive Quoting where
  | outside
  | inside
  /-- In a string, behind a backslash. -/
  | escaped
deriving DecidableEq

/-- A place in a text: how it lies to the strings, and how many braces are open. -/
structure Spot where
  quoting : Quoting
  depth : Nat

/-- The place behind a character. A backslash outside strings and a brace that closes nothing lead
nowhere. -/
def Spot.step : Spot → Char → Option Spot
  | ⟨.outside, depth⟩, c =>
    if c = '"' then some ⟨.inside, depth⟩
    else if c = '\\' then none
    else if c = '\x7b' then some ⟨.outside, depth + 1⟩
    else if c = '\x7d' then if depth = 0 then none else some ⟨.outside, depth - 1⟩
    else some ⟨.outside, depth⟩
  | ⟨.inside, depth⟩, c =>
    if c = '"' then some ⟨.outside, depth⟩
    else if c = '\\' then some ⟨.escaped, depth⟩
    else some ⟨.inside, depth⟩
  | ⟨.escaped, depth⟩, _ => some ⟨.inside, depth⟩

/-- The place behind a text. -/
def Spot.run (s : Spot) : List Char → Option Spot
  | [] => some s
  | c :: cs => (s.step c).bind (·.run cs)

theorem Spot.run_append (s : Spot) (cs more : List Char) :
    s.run (cs ++ more) = (s.run cs).bind (·.run more) := by
  induction cs generalizing s with
  | nil => rfl
  | cons c cs ih =>
      rw [List.cons_append, run, run, Option.bind_assoc]
      cases s.step c with
      | none => rfl
      | some s' => exact ih s'

/-- Outside strings, the text leads back to where it begins. -/
def Nested (cs : List Char) : Prop :=
  ∀ depth, Spot.run ⟨.outside, depth⟩ cs = some ⟨.outside, depth⟩

namespace Nested

theorem nil : Nested [] := fun _ => rfl

theorem append {cs more : List Char} (h : Nested cs) (hmore : Nested more) :
    Nested (cs ++ more) := by
  intro depth
  rw [Spot.run_append, h depth]
  exact hmore depth

theorem braced {cs : List Char} (h : Nested cs) : Nested ('\x7b' :: (cs ++ ['\x7d'])) := by
  intro depth
  have hopen : Spot.step ⟨.outside, depth⟩ '\x7b' = some ⟨.outside, depth + 1⟩ := rfl
  rw [Spot.run, hopen, Option.bind_some, Spot.run_append, h]
  rfl

end Nested

/-- The characters that lead elsewhere when they stand outside strings. -/
def marks : List Char :=
  ['"', '\\', '\x7b', '\x7d']

theorem nested_of_no_marks {cs : List Char} (h : ∀ c ∈ cs, c ∉ marks) : Nested cs := by
  induction cs with
  | nil => exact .nil
  | cons c cs ih =>
      intro depth
      have hc := h c List.mem_cons_self
      simp only [marks, List.mem_cons, List.not_mem_nil, or_false, not_or] at hc
      have hstep : Spot.step ⟨.outside, depth⟩ c = some ⟨.outside, depth⟩ := by
        simp only [Spot.step, hc, ↓reduceIte]
      rw [Spot.run, hstep]
      exact ih (fun c' hc' => h c' (List.mem_cons_of_mem _ hc')) depth

theorem not_mark_of_mem_takeWhile {p : Char → Bool} (hp : ∀ c ∈ marks, p c = false)
    {cs : List Char} :
    ∀ c ∈ cs.takeWhile p, c ∉ marks := by
  intro c hc hmark
  have hpass := List.all_eq_true.mp List.all_takeWhile c hc
  rw [hp c hmark] at hpass
  cases hpass

/-! ## What is read is nested -/

/-- The second text is what the first one has behind a nested part. -/
def Past (cs rest : List Char) : Prop :=
  ∃ part, cs = part ++ rest ∧ Nested part

namespace Past

variable {cs mid rest : List Char}

theorem refl (cs : List Char) : Past cs cs := ⟨[], rfl, .nil⟩

theorem trans (h : Past cs mid) (h' : Past mid rest) : Past cs rest := by
  obtain ⟨part, rfl, hpart⟩ := h
  obtain ⟨part', rfl, hpart'⟩ := h'
  exact ⟨part ++ part', (List.append_assoc _ _ _).symm, hpart.append hpart'⟩

theorem cons {c : Char} (hc : c ∉ marks) (h : Past cs rest) : Past (c :: cs) rest := by
  have hone : Nested [c] := nested_of_no_marks (by simpa using hc)
  exact trans ⟨[c], rfl, hone⟩ h

theorem ofPrefix {part : List Char} (hpart : part <+: cs) (h : ∀ c ∈ part, c ∉ marks) :
    Past cs (cs.drop part.length) := by
  obtain ⟨tail, rfl⟩ := hpart
  exact ⟨part, by rw [List.drop_left], nested_of_no_marks h⟩

theorem skipSpace (cs : List Char) : Past cs (skipSpace cs) :=
  ⟨cs.takeWhile isSpace, List.takeWhile_append_dropWhile.symm,
    nested_of_no_marks (not_mark_of_mem_takeWhile (by decide))⟩

/-- White space in front of a character that may follow. -/
theorem skipSpace_cons {c : Char} (hskip : Json.skipSpace cs = c :: mid) (hc : c ∉ marks)
    (h : Past mid rest) : Past cs rest := by
  have hcs := skipSpace cs
  rw [hskip] at hcs
  exact hcs.trans (h.cons hc)

end Past

/-! ## Strings -/

theorem not_quoting_of_hexValue? {c : Char} {n : Nat} (h : hexValue? c = some n) :
    c ≠ '"' ∧ c ≠ '\\' := by
  constructor <;>
  · rintro rfl
    cases h

theorem Spot.run_inside {c : Char} (hc : c ≠ '"' ∧ c ≠ '\\') (depth : Nat) (cs : List Char) :
    Spot.run ⟨.inside, depth⟩ (c :: cs) = Spot.run ⟨.inside, depth⟩ cs := by
  simp only [run, step, hc.1, hc.2, ↓reduceIte, Option.bind_some]

theorem Spot.run_escape (mark : Char) (depth : Nat) (cs : List Char) :
    Spot.run ⟨.inside, depth⟩ ('\\' :: mark :: cs) = Spot.run ⟨.inside, depth⟩ cs := rfl

theorem Spot.run_unit {a b c d : Char} {n : Nat} (h : unit? a b c d = some n) (depth : Nat)
    (cs : List Char) :
    Spot.run ⟨.inside, depth⟩ ('\\' :: 'u' :: a :: b :: c :: d :: cs)
      = Spot.run ⟨.inside, depth⟩ cs := by
  simp only [unit?, Option.bind_eq_bind] at h
  obtain ⟨_, ha, h⟩ := Option.bind_eq_some_iff.mp h
  obtain ⟨_, hb, h⟩ := Option.bind_eq_some_iff.mp h
  obtain ⟨_, hc, h⟩ := Option.bind_eq_some_iff.mp h
  obtain ⟨_, hd, -⟩ := Option.bind_eq_some_iff.mp h
  rw [run_escape, run_inside (not_quoting_of_hexValue? ha),
    run_inside (not_quoting_of_hexValue? hb), run_inside (not_quoting_of_hexValue? hc),
    run_inside (not_quoting_of_hexValue? hd)]

/-- What is read of a string behind its opening quote ends with its closing one. -/
theorem stringRest_closes {cs : List Char} {read : List Char × List Char}
    (h : stringRest cs = some read) :
    ∃ part, cs = part ++ read.2
      ∧ ∀ depth, Spot.run ⟨.inside, depth⟩ part = some ⟨.outside, depth⟩ := by
  fun_induction stringRest cs generalizing read with
  | case1 | case6 | case8 | case10 | case11 => cases h
  | case2 rest =>
      cases h
      exact ⟨['"'], rfl, fun _ => rfl⟩
  | case3 a b c d e f g h' rest high low hlow hhigh hpair ih =>
      obtain ⟨letters, behind, hread, rfl⟩ := prepend_eq_some h
      obtain ⟨part, rfl, hpart⟩ := ih hread
      refine ⟨'\\' :: 'u' :: a :: b :: c :: d :: '\\' :: 'u' :: e :: f :: g :: h' :: part, rfl, ?_⟩
      intro depth
      rw [Spot.run_unit hhigh, Spot.run_unit hlow, hpart]
  | case4 a b c d e f g h' rest high low hlow hhigh hpair ih =>
      obtain ⟨letters, behind, hread, rfl⟩ := prepend_eq_some h
      obtain ⟨part, hrest, hpart⟩ := ih hread
      refine ⟨'\\' :: 'u' :: a :: b :: c :: d :: part, by rw [hrest]; rfl, fun depth => ?_⟩
      rw [Spot.run_unit hhigh, hpart]
  | case5 a b c d e f g h' rest n hnone hunit ih =>
      obtain ⟨letters, behind, hread, rfl⟩ := prepend_eq_some h
      obtain ⟨part, hrest, hpart⟩ := ih hread
      refine ⟨'\\' :: 'u' :: a :: b :: c :: d :: part, by rw [hrest]; rfl, fun depth => ?_⟩
      rw [Spot.run_unit hunit, hpart]
  | case7 a b c d rest hno n hunit ih =>
      obtain ⟨letters, behind, hread, rfl⟩ := prepend_eq_some h
      obtain ⟨part, rfl, hpart⟩ := ih hread
      refine ⟨'\\' :: 'u' :: a :: b :: c :: d :: part, rfl, fun depth => ?_⟩
      rw [Spot.run_unit hunit, hpart]
  | case9 mark rest hno hno' c hescaped ih =>
      obtain ⟨letters, behind, hread, rfl⟩ := prepend_eq_some h
      obtain ⟨part, rfl, hpart⟩ := ih hread
      exact ⟨'\\' :: mark :: part, rfl, hpart⟩
  | case12 c rest hquote _ _ hno hcontrol ih =>
      obtain ⟨letters, behind, hread, rfl⟩ := prepend_eq_some h
      obtain ⟨part, rfl, hpart⟩ := ih hread
      have hbackslash : c ≠ '\\' := ne_backslash_of_read hno hread
      refine ⟨c :: part, rfl, fun depth => ?_⟩
      rw [Spot.run_inside ⟨hquote, hbackslash⟩, hpart]

theorem Past.string {cs letters rest : List Char} (h : stringRest cs = some (letters, rest)) :
    Past ('"' :: cs) rest := by
  obtain ⟨part, rfl, hpart⟩ := stringRest_closes h
  exact ⟨'"' :: part, rfl, hpart⟩

/-! ## Numbers and constants -/

theorem not_mark_of_mem_wholePart (cs : List Char) : ∀ c ∈ wholePart cs, c ∉ marks := by
  unfold wholePart
  split
  · decide
  · exact not_mark_of_mem_takeWhile (by decide)

theorem not_mark_of_mem_fractionPart (cs : List Char) : ∀ c ∈ fractionPart cs, c ∉ marks := by
  unfold fractionPart
  split
  · simp only
    split
    · simp
    · exact List.forall_mem_cons.mpr ⟨by decide, not_mark_of_mem_takeWhile (by decide)⟩
  · simp

theorem not_mark_of_mem_signPart (cs : List Char) : ∀ c ∈ signPart cs, c ∉ marks := by
  have hsign : ∀ c ∈ marks, (c == '+' || c == '-') = false := by decide
  cases cs with
  | nil => simp [signPart]
  | cons c cs =>
      simp only [signPart]
      split
      · rename_i hc
        intro c' hc' hmark
        rw [List.mem_singleton.mp hc'] at hmark
        rw [hsign c hmark] at hc
        cases hc
      · simp

theorem not_mark_of_mem_exponentPart (cs : List Char) : ∀ c ∈ exponentPart cs, c ∉ marks := by
  have hletter : ∀ c ∈ marks, (c == 'e' || c == 'E') = false := by decide
  cases cs with
  | nil => simp [exponentPart]
  | cons c cs =>
      simp only [exponentPart]
      split
      · rename_i hc
        split
        · simp
        · refine List.forall_mem_append.mpr ⟨List.forall_mem_cons.mpr ⟨fun hmark => ?_, ?_⟩, ?_⟩
          · rw [hletter c hmark] at hc
            cases hc
          · exact not_mark_of_mem_signPart cs
          · exact not_mark_of_mem_takeWhile (by decide)
      · simp

theorem wholePart_leads (cs : List Char) : wholePart cs <+: cs := by
  unfold wholePart
  split
  · exact ⟨_, rfl⟩
  · exact List.takeWhile_prefix _

theorem fractionPart_leads (cs : List Char) : fractionPart cs <+: cs := by
  unfold fractionPart
  split
  · simp only
    split
    · exact List.nil_prefix
    · exact List.cons_prefix_cons.mpr ⟨rfl, List.takeWhile_prefix _⟩
  · exact List.nil_prefix

theorem signPart_leads (cs : List Char) : signPart cs <+: cs := by
  cases cs with
  | nil => exact List.nil_prefix
  | cons c cs =>
      simp only [signPart]
      split
      · exact ⟨cs, rfl⟩
      · exact List.nil_prefix

theorem exponentPart_leads (cs : List Char) : exponentPart cs <+: cs := by
  cases cs with
  | nil => exact List.nil_prefix
  | cons c cs =>
      simp only [exponentPart]
      split
      · split
        · exact List.nil_prefix
        · refine List.cons_prefix_cons.mpr ⟨rfl, ?_⟩
          have hsign := List.prefix_iff_eq_append.mp (signPart_leads cs)
          have hdigits := (List.prefix_append_right_inj (signPart cs)).mpr
            (List.takeWhile_prefix isDigit (l := cs.drop (signPart cs).length))
          rwa [hsign] at hdigits
      · exact List.nil_prefix

theorem Past.unsigned {negative : Bool} {cs rest : List Char} {d : Document}
    (h : Json.unsigned negative cs = some (d, rest)) : Past cs rest := by
  rw [rest_of_unsigned h]
  have hwhole := ofPrefix (wholePart_leads cs) (not_mark_of_mem_wholePart cs)
  generalize cs.drop (wholePart cs).length = behind at hwhole ⊢
  have hfraction := ofPrefix (fractionPart_leads behind) (not_mark_of_mem_fractionPart behind)
  generalize behind.drop (fractionPart behind).length = behind' at hfraction ⊢
  have hexponent := ofPrefix (exponentPart_leads behind') (not_mark_of_mem_exponentPart behind')
  exact (hwhole.trans hfraction).trans hexponent

theorem Past.number {cs rest : List Char} {d : Document}
    (h : Json.number cs = some (d, rest)) : Past cs rest := by
  unfold Json.number at h
  split at h
  · exact (unsigned h).cons (by decide)
  · exact unsigned h

theorem Past.scalar {cs rest : List Char} {d : Document} (h : Json.scalar cs = some (d, rest)) :
    Past cs rest := by
  have hword (word : List Char) (hmarks : ∀ c ∈ word, c ∉ marks) : Past (word ++ rest) rest :=
    ⟨word, rfl, nested_of_no_marks hmarks⟩
  unfold Json.scalar at h
  split at h
  · cases h; exact hword ['n', 'u', 'l', 'l'] (by decide)
  · cases h; exact hword ['t', 'r', 'u', 'e'] (by decide)
  · cases h; exact hword ['f', 'a', 'l', 's', 'e'] (by decide)
  · cases hnamed : namedNumber? cs with
    | none =>
        rw [hnamed, Option.orElse_none] at h
        exact number h
    | some read =>
        rw [hnamed, Option.orElse_some] at h
        cases h
        unfold namedNumber? at hnamed
        split at hnamed
        · cases hnamed; exact hword ['N', 'a', 'N'] (by decide)
        · cases hnamed
          exact hword ['I', 'n', 'f', 'i', 'n', 'i', 't', 'y'] (by decide)
        · cases hnamed
          exact hword ['-', 'I', 'n', 'f', 'i', 'n', 'i', 't', 'y'] (by decide)
        · cases hnamed

/-! ## Documents -/

/-- An object, when its members lead to its closing brace. -/
theorem Past.object {fuel : Nat} {cs rest : List Char} {d : Document}
    (hmembers : ∀ {cs rest : List Char} {before ms : List (String × Document)},
      members fuel before cs = some (ms, rest) → Past cs ('\x7d' :: rest))
    (h : document (fuel + 1) ('\x7b' :: cs) = some (d, rest)) : Past cs ('\x7d' :: rest) := by
  have hcs := skipSpace cs
  rw [document] at h
  split at h
  · rename_i behind hskip
    cases h
    rwa [hskip] at hcs
  · obtain ⟨⟨ms, behind⟩, hread, heq⟩ := Option.map_eq_some_iff.mp h
    cases heq
    exact hcs.trans (hmembers hread)

theorem Past.braced {cs rest : List Char} (h : Past cs ('\x7d' :: rest)) :
    Past ('\x7b' :: cs) rest := by
  obtain ⟨part, rfl, hpart⟩ := h
  exact ⟨'\x7b' :: (part ++ ['\x7d']), by simp, hpart.braced⟩

mutual

/-- A document that is read is nested. -/
theorem document_past : {fuel : Nat} → {cs rest : List Char} → {d : Document} →
    document fuel cs = some (d, rest) → Past cs rest
  | 0, cs, rest, d, h => by cases h
  | fuel + 1, [], rest, d, h => absurd rfl (ne_nil_of_document h)
  | fuel + 1, c :: cs, rest, d, h => by
      by_cases hquote : c = '"'
      · subst hquote
        rw [document] at h
        obtain ⟨⟨letters, behind⟩, hread, heq⟩ := Option.map_eq_some_iff.mp h
        cases heq
        exact .string hread
      by_cases hbracket : c = '['
      · subst hbracket
        rw [document] at h
        refine Past.cons (by decide) ?_
        split at h
        · rename_i behind hskip
          cases h
          exact .skipSpace_cons hskip (by decide) (.refl _)
        · obtain ⟨⟨items, behind⟩, hread, heq⟩ := Option.map_eq_some_iff.mp h
          cases heq
          exact (Past.skipSpace cs).trans (elements_past hread)
      by_cases hbrace : c = '\x7b'
      · subst hbrace
        exact (Past.object members_past h).braced
      · rw [document_scalar ⟨hquote, hbracket, hbrace⟩] at h
        exact .scalar h

theorem elements_past : {fuel : Nat} → {cs rest : List Char} → {items : List Document} →
    elements fuel cs = some (items, rest) → Past cs rest
  | 0, cs, rest, items, h => by cases h
  | fuel + 1, cs, rest, items, h => by
      rw [elements] at h
      split at h
      · cases h
      · rename_i item behind hitem
        refine (document_past hitem).trans ?_
        split at h
        · rename_i tail hskip
          obtain ⟨⟨items, _⟩, hitems, heq⟩ := Option.map_eq_some_iff.mp h
          cases heq
          exact .skipSpace_cons hskip (by decide)
            ((Past.skipSpace tail).trans (elements_past hitems))
        · rename_i tail hskip
          cases h
          exact .skipSpace_cons hskip (by decide) (.refl _)
        · cases h

theorem members_past : {fuel : Nat} → {cs rest : List Char} →
    {before ms : List (String × Document)} → members fuel before cs = some (ms, rest) →
    Past cs ('\x7d' :: rest)
  | 0, cs, rest, before, ms, h => by cases h
  | fuel + 1, cs, rest, before, ms, h => by
      unfold members at h
      split at h
      · rename_i name
        split at h
        · cases h
        · rename_i letters afterName hname
          refine (Past.string hname).trans ?_
          split at h
          · rename_i value hcolon
            refine .skipSpace_cons hcolon (by decide) ((Past.skipSpace value).trans ?_)
            split at h
            · cases h
            · rename_i item behind hitem
              refine (document_past hitem).trans ?_
              simp only at h
              split at h
              · rename_i tail hskip
                exact .skipSpace_cons hskip (by decide)
                  ((Past.skipSpace tail).trans (members_past h))
              · rename_i tail hskip
                cases h
                exact hskip ▸ .skipSpace behind
              · cases h
          · cases h
      · cases h

end

/-- A text that holds a document is nested. -/
theorem nested_of_read? {cs : List Char} {d : Document} (h : read? (String.ofList cs) = some d) :
    Nested cs := by
  rw [read?, String.toList_ofList] at h
  split at h
  · rename_i d' rest hread
    split at h
    · rename_i hempty
      have hpast := ((Past.skipSpace cs).trans (document_past hread)).trans (Past.skipSpace rest)
      rw [List.isEmpty_iff.mp hempty] at hpast
      obtain ⟨part, rfl, hpart⟩ := hpast
      rwa [List.append_nil]
    · cases h
  · cases h

/-- What stands between the braces of an object is nested. -/
theorem Written.nested_inside {w : Written} (h : w.isObject = true) :
    ∃ inner, w.chars = '\x7b' :: (inner ++ ['\x7d']) ∧ Nested inner := by
  obtain ⟨cs, hcs⟩ := Written.head_of_isObject h
  have hread := document_chars w (Nat.le_succ (2 * w.chars.length)) stops_nil
  rw [List.append_nil, hcs] at hread
  obtain ⟨inner, rfl, hinner⟩ := Past.object members_past hread
  exact ⟨inner, hcs, hinner⟩

/-! ## Objects cut off in front -/

/-- One place lies in a string, the other one outside. -/
def Spot.Opposed (s t : Spot) : Prop :=
  s.quoting = .inside ∧ t.quoting = .outside ∨ s.quoting = .outside ∧ t.quoting = .inside

namespace Spot.Opposed

variable {s t s' t' : Spot}

theorem symm (h : s.Opposed t) : t.Opposed s := by
  rcases h with ⟨hs, ht⟩ | ⟨hs, ht⟩
  · exact .inr ⟨ht, hs⟩
  · exact .inl ⟨ht, hs⟩

/-- A quote moves both places, and a backslash leads nowhere from the one outside. -/
theorem step_inside {i j : Nat} {c : Char} (hs : Spot.step ⟨.inside, i⟩ c = some s')
    (ht : Spot.step ⟨.outside, j⟩ c = some t') : s'.Opposed t' := by
  by_cases hquote : c = '"'
  · subst hquote
    cases hs
    cases ht
    exact .inr ⟨rfl, rfl⟩
  by_cases hbackslash : c = '\\'
  · subst hbackslash
    cases ht
  · simp only [Spot.step, hquote, hbackslash, ↓reduceIte, Option.some.injEq] at hs ht
    subst hs
    refine .inl ⟨rfl, ?_⟩
    split at ht
    · cases ht; rfl
    · split at ht
      · split at ht <;> cases ht
        rfl
      · cases ht; rfl

theorem step {c : Char} (h : s.Opposed t) (hs : s.step c = some s') (ht : t.step c = some t') :
    s'.Opposed t' := by
  obtain ⟨quoting, i⟩ := s
  obtain ⟨quoting', j⟩ := t
  rcases h with ⟨rfl, rfl⟩ | ⟨rfl, rfl⟩
  · exact step_inside hs ht
  · exact (step_inside ht hs).symm

theorem run {cs : List Char} (h : s.Opposed t) (hs : s.run cs = some s')
    (ht : t.run cs = some t') : s'.Opposed t' := by
  induction cs generalizing s t with
  | nil =>
      cases hs
      cases ht
      exact h
  | cons c cs ih =>
      obtain ⟨s₁, hs₁, hs⟩ := Option.bind_eq_some_iff.mp hs
      obtain ⟨t₁, ht₁, ht⟩ := Option.bind_eq_some_iff.mp ht
      exact ih (h.step hs₁ ht₁) hs ht

end Spot.Opposed

/-- Behind an opening brace in a nested text, no nested text ends with one more closing brace. -/
theorem not_nested_of_inner_brace {front back : List Char}
    (h : Nested (front ++ '\x7b' :: back)) : ¬Nested ('\x7b' :: (back ++ ['\x7d'])) := by
  intro hback
  have hwhole := h 0
  rw [Spot.run_append] at hwhole
  obtain ⟨⟨quoting, depth⟩, -, hbehind⟩ := Option.bind_eq_some_iff.mp hwhole
  cases quoting with
  | outside =>
      -- The brace is one of the text: behind it every brace is closed already.
      have hclosed := hback depth
      rw [← List.cons_append, Spot.run_append, hbehind] at hclosed
      cases hclosed
  | inside | escaped =>
      -- The brace lies in a string: quotes mean the opposite from here on.
      have hstring : Spot.run ⟨.inside, depth⟩ back = some ⟨.outside, 0⟩ := hbehind
      have hopened : Spot.run ⟨.outside, 1⟩ (back ++ ['\x7d']) = some ⟨.outside, 0⟩ := hback 0
      rw [Spot.run_append] at hopened
      obtain ⟨⟨quoting', depth'⟩, hend, hbrace⟩ := Option.bind_eq_some_iff.mp hopened
      have hopposed : Spot.Opposed ⟨.outside, 0⟩ ⟨quoting', depth'⟩ :=
        Spot.Opposed.run (.inl ⟨rfl, rfl⟩) hstring hend
      rcases hopposed with ⟨houtside, -⟩ | ⟨-, rfl⟩
      · cases houtside
      · cases hbrace

end QueryClient.Json
