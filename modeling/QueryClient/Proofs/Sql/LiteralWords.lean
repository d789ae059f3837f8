import QueryClient.Proofs.Sql.Inert
import QueryClient.Proofs.Sql.Place
import QueryClient.Proofs.Text.Padding

/-!
# The words of literals

What a search for a format clause sees of a literal. The words of numbers and of `NULL` are spelled
without some letters that the word `format` and the names of formats need, and no comment begins in
a literal, though a negative number behind a minus sign would complete the beginning of one.
-/

namespace QueryClient

namespace Sql

open Text (isWordChar isBlank)

/-! ## Words that name nothing -/

/-- The letters of which `format` and the name of every format contain one. -/
def tellingLetters : List Char :=
  ['b', 'j', 'o', 'v']

/-- A character of the words that numbers and `NULL` are written with. -/
def isNumeric (c : Char) : Bool :=
  c.toNat < 0x80 && isWordChar c && !tellingLetters.contains (Text.lowerChar c)

theorem isWordChar_of_isNumeric {c : Char} (h : isNumeric c = true) : isWordChar c = true := by
  simp only [isNumeric, Bool.and_eq_true] at h
  exact h.1.2

/-- Text of ASCII characters is put into lower case one by one. -/
theorem lowerFrom_of_ascii (before : List Char) {cs : List Char} (h : ∀ c ∈ cs, c.toNat < 0x80) :
    Text.lowerFrom before cs = cs.map Text.lowerChar := by
  induction cs generalizing before with
  | nil => rfl
  | cons c cs ih =>
      rw [List.forall_mem_cons] at h
      have hdot : c ≠ '\u0130' := by rintro rfl; exact absurd h.1 (by decide)
      have hsigma : c ≠ '\u03a3' := by rintro rfl; exact absurd h.1 (by decide)
      simp [Text.lowerFrom, hdot, hsigma, ih (c :: before) h.2]

theorem lower_numeric {cs : List Char} (h : ∀ c ∈ cs, isNumeric c = true) :
    ∀ c ∈ (Text.lower (String.ofList cs)).toList, c ∉ tellingLetters := by
  have hascii : ∀ c ∈ cs, c.toNat < 0x80 := fun c hc => by
    have := h c hc
    simp only [isNumeric, Bool.and_eq_true, decide_eq_true_eq] at this
    exact this.1.1
  rw [Text.lower, String.toList_ofList, String.toList_ofList, lowerFrom_of_ascii [] hascii]
  intro d hd
  obtain ⟨c, hc, rfl⟩ := List.mem_map.mp hd
  have hnumeric := h c hc
  simp only [isNumeric, Bool.and_eq_true, Bool.not_eq_true', List.contains_eq_mem,
    decide_eq_false_iff_not] at hnumeric
  exact hnumeric.2

theorem isFormat_numeric {cs : List Char} (h : ∀ c ∈ cs, isNumeric c = true) (adjacent : Bool) :
    Word.isFormat ⟨cs, adjacent⟩ = false := by
  have hletters := lower_numeric h
  rw [Word.isFormat, beq_eq_false_iff_ne]
  intro heq
  rw [heq] at hletters
  exact hletters 'o' (by decide) (by decide)

theorem formatNamed?_numeric {cs : List Char} (h : ∀ c ∈ cs, isNumeric c = true) :
    formatNamed? (String.ofList cs) = none := by
  have hletters := lower_numeric h
  have hnames : ∀ format ∈ outputFormats,
      (Text.lower format).toList.any tellingLetters.contains = true := by
    decide +kernel
  rw [formatNamed?, List.find?_eq_none]
  intro format hformat heq
  obtain ⟨c, hc, htelling⟩ := List.any_eq_true.mp (hnames format hformat)
  rw [eq_of_beq heq] at hc
  exact hletters c hc (List.contains_iff_mem.mp htelling)

/-! ## Searches in front of and behind a literal -/

namespace Search

/-- The search has found nothing and stands outside quotes and comments; a word in front of it
names nothing. -/
inductive Ready : Search → Prop
  | free {place armed} (h : place.isFree = true) : Ready ⟨place, armed, none⟩
  | word {reversed armed} (h : ∀ c ∈ reversed, isNumeric c = true) :
      Ready ⟨.word reversed, armed, none⟩

/-- The search stands behind a word that names nothing. -/
inductive Sealed : Search → Prop
  | word {reversed armed} (h : ∀ c ∈ reversed, isNumeric c = true) :
      Sealed ⟨.word reversed, armed, none⟩

theorem ready_bare : (idle .bare).Ready :=
  .free rfl

theorem Sealed.ready {s : Search} (h : s.Sealed) : s.Ready := by
  cases h with
  | word h => exact .word h

theorem Sealed.place_ne {s : Search} (h : s.Sealed) : s.place ≠ .minus := by
  cases h with
  | word h => simp

theorem Sealed.close {s : Search} (h : s.Sealed) : s.close = idle .bare := by
  cases h with
  | @word reversed armed h =>
      have hmem : ∀ c ∈ reversed.reverse, isNumeric c = true := by simpa using h
      rw [close_word, isFormat_numeric hmem, formatNamed?_numeric hmem]
      cases armed <;> rfl

theorem Sealed.step {s : Search} (h : s.Sealed) {c : Char} (hc : isWordChar c = false) :
    s.step c = (idle .bare).step c := by
  have hclose := h.close
  cases h with
  | word h => rw [step_word hc, hclose]

theorem Sealed.result {s : Search} (h : s.Sealed) : s.result = none := by
  rw [Search.result, h.close]
  rfl

namespace Ready

variable {s : Search}

/-- A mark after whatever may be in front of a literal. -/
theorem step_mark (h : s.Ready) {c : Char} (hword : isWordChar c = false)
    (hblank : isBlank c = false) (hstar : c ≠ '*') (hminus : s.place = .minus → c ≠ '-') :
    s.step c = idle (Place.begin c) := by
  cases h with
  | @free place armed hplace =>
      cases place with
      | bare => simp [step, close, Place.step, hword, hblank, idle]
      | minus =>
          have hne : c ≠ '-' := hminus rfl
          simp [step, close, Place.step, hword, hblank, idle, hne]
      | slash => simp [step, close, Place.step, hword, hblank, idle, hstar]
      | _ => cases hplace
  | word hreversed =>
      rw [(Sealed.word hreversed).step hword]
      simp [step, close, Place.step, hword, hblank, idle]

theorem step_numeric (h : s.Ready) {c : Char} (hc : isNumeric c = true) : (s.step c).Sealed := by
  have hword := isWordChar_of_isNumeric hc
  cases h with
  | @free place armed hplace =>
      have hminus : c ≠ '-' := by rintro rfl; revert hc; decide
      have hstar : c ≠ '*' := by rintro rfl; revert hc; decide
      have hstep : (⟨place, armed, none⟩ : Search).step c = ⟨.word [c], armed, none⟩ := by
        cases place with
        | bare | minus | slash =>
            simp [step, Place.step, hword, hminus, hstar, begin_of_isWordChar hword]
        | _ => cases hplace
      rw [hstep]
      exact .word (by simpa using hc)
  | @word reversed armed hreversed =>
      have hstep : (⟨.word reversed, armed, none⟩ : Search).step c
          = ⟨.word (c :: reversed), armed, none⟩ := by
        simp [step, Place.step, hword]
      rw [hstep]
      exact .word (List.forall_mem_cons.mpr ⟨hc, hreversed⟩)

end Ready

end Search

/-! ## Texts that end in such a word -/

/-- Behind the text a search stands behind a word that names nothing. -/
def Seals (cs : List Char) : Prop :=
  ∀ s : Search, s.Ready → (s.place = .minus → cs.head? ≠ some '-') → (s.run cs).Sealed

/-- A character of an unsigned number, or the plus sign of its exponent. -/
def isUndashed (c : Char) : Bool :=
  isNumeric c || c == '.' || c == '+'

theorem Search.Ready.step_undashed {s : Search} (h : s.Ready) {c : Char}
    (hc : isUndashed c = true) : (s.step c).Ready ∧ (s.step c).place ≠ .minus := by
  simp only [isUndashed, Bool.or_eq_true, beq_iff_eq] at hc
  have hmark : ∀ c : Char, c = '.' ∨ c = '+' → s.step c = idle .bare := by
    intro c hc
    rcases hc with rfl | rfl
    · exact h.step_mark (by decide) (by decide) (by decide) fun _ => by decide
    · exact h.step_mark (by decide) (by decide) (by decide) fun _ => by decide
  rcases hc with (hc | hc) | hc
  · have hsealed := h.step_numeric hc
    exact ⟨hsealed.ready, hsealed.place_ne⟩
  · rw [hmark c (.inl hc)]
    exact ⟨.free rfl, by simp [idle]⟩
  · rw [hmark c (.inr hc)]
    exact ⟨.free rfl, by simp [idle]⟩

theorem Search.Ready.run_undashed {s : Search} (h : s.Ready) {cs : List Char} (hne : cs ≠ [])
    (hcs : ∀ c ∈ cs, isUndashed c = true) : (s.run cs).Ready ∧ (s.run cs).place ≠ .minus := by
  induction cs generalizing s with
  | nil => exact absurd rfl hne
  | cons c cs ih =>
      rw [List.forall_mem_cons] at hcs
      have hstep := h.step_undashed hcs.1
      cases cs with
      | nil => exact hstep
      | cons d cs => exact ih hstep.1 (List.cons_ne_nil d cs) hcs.2

theorem seals_word {cs : List Char} (hne : cs ≠ []) (h : ∀ c ∈ cs, isNumeric c = true) :
    Seals cs := by
  intro s hs _
  induction cs generalizing s with
  | nil => exact absurd rfl hne
  | cons c cs ih =>
      rw [List.forall_mem_cons] at h
      have hstep := hs.step_numeric h.1
      cases cs with
      | nil => exact hstep
      | cons d cs =>
          exact ih (List.cons_ne_nil d cs) h.2 _ hstep.ready fun hp => absurd hp hstep.place_ne

theorem Seals.ne_nil {cs : List Char} (h : Seals cs) : cs ≠ [] := by
  rintro rfl
  cases h _ Search.ready_bare fun _ => by simp

theorem Seals.behind {cs ds : List Char} (h : Seals ds) (hne : cs ≠ [])
    (hcs : ∀ c ∈ cs, isUndashed c = true) : Seals (cs ++ ds) := by
  intro s hs _
  have hmid := hs.run_undashed hne hcs
  rw [Search.run_append]
  exact h _ hmid.1 fun hp => absurd hp hmid.2

theorem Seals.negated {cs : List Char} (h : Seals cs) (hhead : cs.head? ≠ some '-') :
    Seals ('-' :: cs) := by
  intro s hs hminus
  have hstep : s.step '-' = Search.idle .minus :=
    hs.step_mark (by decide) (by decide) (by decide) fun hp => absurd rfl (hminus hp)
  rw [Search.run_cons, hstep]
  exact h _ (.free rfl) fun _ => hhead

/-! ## Numbers -/

theorem isNumeric_of_isDigit {c : Char} (h : c.isDigit = true) : isNumeric c = true := by
  have hdigits : ∀ n < 58, 48 ≤ n → isNumeric (Char.ofNat n) = true := by decide
  simp only [Char.isDigit, Bool.and_eq_true, decide_eq_true_eq, ge_iff_le, UInt32.le_iff_toNat_le]
    at h
  have hn : c.toNat = c.val.toNat := rfl
  have h48 : '0'.val.toNat = 48 := rfl
  have h57 : '9'.val.toNat = 57 := rfl
  rw [← Char.ofNat_toNat c]
  exact hdigits c.toNat (by omega) (by omega)

theorem isUndashed_of_isNumeric {c : Char} (h : isNumeric c = true) : isUndashed c = true := by
  simp [isUndashed, h]

/-- A number without a sign in front. -/
structure Unsigned (cs : List Char) : Prop where
  seals : Seals cs
  head : cs.head? ≠ some '-'

theorem Unsigned.ofWord {cs : List Char} (hne : cs ≠ []) (h : ∀ c ∈ cs, isNumeric c = true) :
    Unsigned cs where
  seals := seals_word hne h
  head := fun hhead => by
    have hminus := h '-' (List.mem_of_head? hhead)
    revert hminus
    decide

theorem Unsigned.ofBehind {c : Char} {cs ds : List Char}
    (hcs : ∀ d ∈ c :: cs, isUndashed d = true) (h : Seals ds) : Unsigned (c :: cs ++ ds) where
  seals := h.behind (List.cons_ne_nil c cs) hcs
  head := fun hhead => by
    obtain rfl : c = '-' := Option.some.inj hhead
    have hminus := hcs '-' List.mem_cons_self
    revert hminus
    decide

theorem Unsigned.behind {cs ds : List Char} (hcs : ∀ c ∈ cs, isUndashed c = true)
    (h : Unsigned ds) : Unsigned (cs ++ ds) := by
  cases cs with
  | nil => exact h
  | cons c cs => exact .ofBehind hcs h.seals

/-- A search behind one text is ready for another. -/
theorem Unsigned.append {cs ds : List Char} (h : Unsigned cs) (hds : Seals ds) :
    Unsigned (cs ++ ds) := by
  have hhead : (cs ++ ds).head? = cs.head? := by
    cases cs with
    | nil => exact absurd rfl h.seals.ne_nil
    | cons c cs => rfl
  refine ⟨fun s hs hminus => ?_, hhead ▸ h.head⟩
  have hmid := h.seals s hs (hhead ▸ hminus)
  rw [Search.run_append]
  exact hds _ hmid.ready fun hp => absurd hp hmid.place_ne

theorem Unsigned.signed {cs : List Char} (h : Unsigned cs) (negative : Bool) :
    Seals ((Number.signText negative).toList ++ cs) := by
  cases negative with
  | false => exact h.seals
  | true => exact h.seals.negated h.head

theorem unsigned_repr (n : Nat) : Unsigned (toString n).toList :=
  .ofWord (Text.repr_ne_nil n) fun _ hc => isNumeric_of_isDigit (Text.isDigit_of_mem_repr hc)

theorem seals_int (n : Int) : Seals (toString n).toList := by
  cases n with
  | ofNat n => exact (unsigned_repr n).seals
  | negSucc n =>
      rw [show toString (Int.negSucc n) = "-" ++ toString (n + 1) from rfl, String.toList_append]
      exact (unsigned_repr (n + 1)).seals.negated (unsigned_repr (n + 1)).head

/-- Digits with a point somewhere end with a digit. -/
theorem unsigned_withPoint {digits : List Char} (hne : digits ≠ [])
    (h : ∀ c ∈ digits, isNumeric c = true) (places : Int) :
    Unsigned (Number.withPoint digits places).toList := by
  unfold Number.withPoint
  split
  · have hzeros : ∀ c ∈ List.replicate (-places).toNat '0', isUndashed c = true := fun c hc => by
      rw [List.eq_of_mem_replicate hc]; decide
    simp only [String.toList_append, String.toList_ofList]
    exact .behind (by decide) (.behind hzeros (.ofWord hne h))
  · split
    · rw [String.toList_ofList]
      exact .ofWord hne h
    · have hfront : ∀ c ∈ digits.take places.toNat ++ ['.'], isUndashed c = true := by
        intro c hc
        rcases List.mem_append.mp hc with hc | hc
        · exact isUndashed_of_isNumeric (h c (List.mem_of_mem_take hc))
        · rw [List.mem_singleton.mp hc]; decide
      have hrest : digits.drop places.toNat ≠ [] := by
        rw [ne_eq, List.drop_eq_nil_iff]; omega
      rw [String.toList_ofList, List.append_cons]
      exact .behind hfront (.ofWord hrest fun c hc => h c (List.mem_of_mem_drop hc))

theorem seals_exponent {letter digits : String} (hletter : letter = "e" ∨ letter = "E")
    (h : Unsigned digits.toList) (negative : Prop) [Decidable negative] :
    Seals (letter ++ ((if negative then "-" else "+") ++ digits)).toList := by
  have hword : Unsigned letter.toList := by
    rcases hletter with rfl | rfl
    · exact .ofWord (by decide) (by decide)
    · exact .ofWord (by decide) (by decide)
  rw [String.toList_append, String.toList_append]
  refine (hword.append ?_).seals
  split
  · exact h.seals.negated h.head
  · exact h.seals.behind (by decide) (by decide)

theorem numeric_of_mem_repr {n : Nat} : ∀ c ∈ (toString n).toList, isNumeric c = true :=
  fun _ hc => isNumeric_of_isDigit (Text.isDigit_of_mem_repr hc)

theorem seals_decimal (d : Number.Decimal) : Seals d.text.toList := by
  cases d with
  | infinite negative =>
      rw [Number.Decimal.text, String.toList_append]
      exact (Unsigned.ofWord (by decide) (by decide)).signed negative
  | nan negative signaling payload =>
      have hname : Unsigned (if signaling then "sNaN" else "NaN").toList := by
        cases signaling <;> exact .ofWord (by decide) (by decide)
      have hpayload : Unsigned ((if signaling then "sNaN" else "NaN").toList
          ++ (if payload == 0 then "" else toString payload).toList) := by
        by_cases hzero : (payload == 0) = true
        · rw [if_pos hzero, String.toList_empty, List.append_nil]; exact hname
        · rw [if_neg hzero]; exact hname.append (unsigned_repr payload).seals
      rw [Number.Decimal.text, String.append_assoc, String.toList_append, String.toList_append]
      exact hpayload.signed negative
  | finite negative coefficient exponent =>
      have hpoint := unsigned_withPoint (Text.repr_ne_nil coefficient) numeric_of_mem_repr
      rw [Number.Decimal.text, String.toList_append]
      refine Unsigned.signed ?_ negative
      split
      · split
        · rw [String.ofList_toList]; exact unsigned_repr coefficient
        · exact hpoint _
      · rw [String.append_assoc, String.toList_append, Number.exponentText]
        exact (hpoint 1).append (seals_exponent (.inr rfl) (unsigned_repr _) _)

theorem unsigned_fraction : Unsigned (['.'] ++ ['0']) :=
  .behind (by decide) (.ofWord (by decide) (by decide))

theorem unsigned_zero : Unsigned (['0'] ++ (['.'] ++ ['0'])) :=
  .behind (by decide) unsigned_fraction

theorem unsigned_digits (d : Number.Digits) : Unsigned d.text.toList := by
  have hpoint := unsigned_withPoint (Text.repr_ne_nil d.digits) numeric_of_mem_repr
  simp only [Number.Digits.text]
  split
  · split
    · have hzeros : ∀ c ∈ List.replicate d.exponent.toNat '0', isNumeric c = true := fun c hc => by
        rw [List.eq_of_mem_replicate hc]; decide
      have hword : Unsigned ((toString d.digits).toList ++ List.replicate d.exponent.toNat '0') :=
        .ofWord (List.append_ne_nil_of_left_ne_nil (Text.repr_ne_nil d.digits) _)
          (List.forall_mem_append.mpr ⟨numeric_of_mem_repr, hzeros⟩)
      rw [String.toList_append, String.toList_ofList]
      exact hword.append unsigned_fraction.seals
    · exact hpoint _
  · have hexponent : ∀ e : Int, Unsigned
        (if (toString e.natAbs).length < 2 then "0" ++ toString e.natAbs
          else toString e.natAbs).toList := by
      intro e
      split
      · rw [String.toList_append]
        exact (unsigned_repr e.natAbs).behind (by decide)
      · exact unsigned_repr e.natAbs
    rw [String.append_assoc, String.toList_append, Number.paddedExponent]
    exact (hpoint 1).append (seals_exponent (.inl rfl) (hexponent _) _)

theorem seals_float (x : Float) : Seals (Number.floatText x).toList := by
  unfold Number.floatText
  cases Number.Binary64.ofFloat x with
  | nan => exact seals_word (by decide) (by decide)
  | infinite negative =>
      rw [Number.Binary64.text, String.toList_append]
      exact (Unsigned.ofWord (by decide) (by decide)).signed negative
  | finite negative m q =>
      rw [Number.Binary64.text, String.toList_append]
      refine Unsigned.signed ?_ negative
      split
      · exact unsigned_zero
      · exact unsigned_digits (Number.shortest m q)

/-! ## Literals -/

end Sql

namespace Value

mutual

/-- Raw SQL is written out where the value is, be it in a list or as the value of a member. -/
def writesRaw : Value → Bool
  | raw _ => true
  | member inner => inner.writesRaw
  | list items | tuple items | set items => anyWritesRaw items
  | _ => false

def anyWritesRaw : List Value → Bool
  | [] => false
  | v :: rest => v.writesRaw || anyWritesRaw rest

end

end Value

namespace Sql

theorem seals_null : Seals "NULL".toList :=
  seals_word (by decide) (by decide)

namespace Search

def Done (s : Search) : Prop :=
  s = idle .bare ∨ s.Sealed

theorem Done.ready {s : Search} (h : s.Done) : s.Ready := by
  rcases h with rfl | h
  · exact ready_bare
  · exact h.ready

theorem Done.place_ne {s : Search} (h : s.Done) : s.place ≠ .minus := by
  rcases h with rfl | h
  · simp [idle]
  · exact h.place_ne

theorem run_escapeChar (c : Char) :
    (idle (.quoted '\'')).run (escapeChar c) = idle (.quoted '\'') := by
  unfold escapeChar
  split
  · rw [run_cons, step_enclosed rfl, run_cons, step_enclosed rfl]
    rfl
  · rename_i h
    have hslash : c ≠ '\\' := by rintro rfl; simp [escapeLetter?] at h
    have hquote : c ≠ '\'' := by rintro rfl; simp [escapeLetter?] at h
    rw [run_cons, step_enclosed rfl]
    simp [Place.step, hslash, hquote]

theorem run_escaped (cs : List Char) :
    (idle (.quoted '\'')).run (cs.flatMap escapeChar) = idle (.quoted '\'') := by
  induction cs with
  | nil => rfl
  | cons c cs ih => rw [List.flatMap_cons, run_append, run_escapeChar, ih]

theorem Ready.run_quoteText {s : Search} (h : s.Ready) (t : String) :
    s.run (quoteText t).toList = idle .bare := by
  have hopen : s.step '\'' = idle (.quoted '\'') :=
    h.step_mark (by decide) (by decide) (by decide) fun _ => by decide
  rw [quoteText, String.toList_ofList, quoteChars, List.cons_append, run_cons, hopen, run_append,
    run_escaped]
  rfl

/-- Between two literals a search starts anew. -/
theorem Done.run_comma {s : Search} (h : s.Done) : s.run ", ".toList = idle .bare := by
  have hcomma : s.step ',' = idle .bare :=
    h.ready.step_mark (by decide) (by decide) (by decide) fun _ => by decide
  rw [show ", ".toList = [',', ' '] by decide, run_cons, hcomma]
  decide

theorem Done.step_bracket {s : Search} (h : s.Done) : s.step ']' = idle .bare :=
  h.ready.step_mark (by decide) (by decide) (by decide) fun _ => by decide

end Search

/-- A literal leaves a search outside quotes and comments, with nothing found. -/
def Passes (cs : List Char) : Prop :=
  ∀ s : Search, s.Ready → (s.place = .minus → cs.head? ≠ some '-') → (s.run cs).Done

theorem Seals.passes {cs : List Char} (h : Seals cs) : Passes cs :=
  fun s hs hminus => .inr (h s hs hminus)

theorem passes_quoteText (t : String) : Passes (quoteText t).toList :=
  fun _ hs _ => .inl (hs.run_quoteText t)

theorem passes_brackets {cs : List Char} (h : ((Search.idle .bare).run cs).Done) :
    Passes ('[' :: (cs ++ [']'])) := by
  intro s hs _
  have hopen : s.step '[' = Search.idle .bare :=
    hs.step_mark (by decide) (by decide) (by decide) fun _ => by decide
  rw [Search.run_cons, hopen, Search.run_append, Search.run_cons, h.step_bracket]
  exact .inl rfl

mutual

theorem passes_literal : (v : Value) → v.writesRaw = false → Passes (literal v).toList
  | .raw _, h => by simp [Value.writesRaw] at h
  | .member inner, h => by rw [literal]; exact passes_literal inner h
  | .null, _ => by rw [literal]; exact seals_null.passes
  | .bool b, _ => by
      rw [literal]
      cases b with
      | false => exact (seals_word (by decide) (by decide)).passes
      | true => exact (seals_word (by decide) (by decide)).passes
  | .int n, _ => by rw [literal]; exact (seals_int n).passes
  | .float x, _ => by rw [literal]; exact (seals_float x).passes
  | .decimal d, _ => by rw [literal]; exact (seals_decimal d).passes
  | .list items, h | .tuple items, h | .set items, h => by
      rw [literal, String.toList_append, String.toList_append]
      exact passes_brackets (done_literalItems items h)
  | .text _, _ | .bytes _, _ | .bytearray _, _ | .date _, _ | .datetime _, _ | .time _, _
  | .uuid _, _ | .dict _, _ | .statement _, _ | .missing, _ | .query, _ | .callback, _ => by
      rw [literal]; exact passes_quoteText _

theorem done_literalItems : (vs : List Value) → Value.anyWritesRaw vs = false →
    ((Search.idle .bare).run (literalItems vs).toList).Done
  | [], _ => .inl rfl
  | [v], h => by
      simp only [Value.anyWritesRaw, Bool.or_false] at h
      rw [literalItems]
      exact passes_literal v h _ Search.ready_bare fun hp => by cases hp
  | v :: w :: rest, h => by
      simp only [Value.anyWritesRaw, Bool.or_eq_false_iff] at h
      have hv := passes_literal v h.1 _ Search.ready_bare fun hp => by cases hp
      rw [literalItems, String.toList_append, String.toList_append, Search.run_append,
        Search.run_append, hv.run_comma]
      · exact done_literalItems (w :: rest) (by simp [Value.anyWritesRaw, h.2])
      · exact List.cons_ne_nil w rest

end

end Sql

end QueryClient
