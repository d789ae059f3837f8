import QueryClient.Sql.OutputFormat

/-!
# Reading a statement character by character

Where a reader of SQL stands who tells words from quotes and comments, and a search for a format
clause that reads a statement once, from the front. The search finds what cutting the statement
into words finds, so that a clause can be followed through texts that are put together.
-/

namespace QueryClient.Sql

/-! ## Places -/

/-- Where a reader stands who looks for the words of a statement. -/
inductive Place where
  /-- Outside words, quotes and comments. -/
  | bare
  /-- Behind a minus sign, with which a comment may begin. -/
  | minus
  /-- Behind a slash, with which a comment may begin. -/
  | slash
  /-- In a word; its characters so far, the last one first. -/
  | word (reversed : List Char)
  /-- In a region that ends with the given quote. -/
  | quoted (quote : Char)
  /-- Behind a backslash in such a region. -/
  | escaped (quote : Char)
  /-- In a comment that ends with its line. -/
  | line
  /-- In a comment that ends with a star and a slash. -/
  | block
  /-- Behind a star in such a comment. -/
  | star
deriving Repr, DecidableEq

namespace Place

/-- What a character begins that belongs to nothing before it. -/
def begin (c : Char) : Place :=
  if isQuote c then .quoted c
  else if c = '-' then .minus
  else if c = '/' then .slash
  else if Text.isWordChar c then .word [c]
  else .bare

/-- Read one character. -/
def step : Place → Char → Place
  | .bare, c => begin c
  | .minus, c => if c = '-' then .line else begin c
  | .slash, c => if c = '*' then .block else begin c
  | .word reversed, c => if Text.isWordChar c then .word (c :: reversed) else begin c
  | .quoted quote, c =>
    if c = '\\' then .escaped quote else if c = quote then .bare else .quoted quote
  | .escaped quote, _ => .quoted quote
  | .line, c => if c = '\n' then .bare else .line
  | .block, c => if c = '*' then .star else .block
  | .star, c => if c = '/' then .bare else if c = '*' then .star else .block

def run (p : Place) (cs : List Char) : Place :=
  cs.foldl step p

@[simp] theorem run_nil (p : Place) : p.run [] = p := rfl

@[simp] theorem run_cons (p : Place) (c : Char) (cs : List Char) :
    p.run (c :: cs) = (p.step c).run cs := rfl

theorem run_append (p : Place) (cs ds : List Char) : p.run (cs ++ ds) = (p.run cs).run ds :=
  List.foldl_append

/-- In quotes or in a comment. -/
def isEnclosed : Place → Bool
  | quoted _ | escaped _ | line | block | star => true
  | bare | minus | slash | word _ => false

/-- Outside quotes and comments, with no word in front. -/
def isFree : Place → Bool
  | bare | minus | slash => true
  | word _ | quoted _ | escaped _ | line | block | star => false

end Place

/-! ## Kinds of characters -/

theorem isWordChar_of_isQuote {c : Char} (h : isQuote c = true) : Text.isWordChar c = false := by
  simp only [isQuote, Bool.or_eq_true, beq_iff_eq] at h
  rcases h with (rfl | rfl) | rfl <;> decide

theorem isBlank_of_isQuote {c : Char} (h : isQuote c = true) : Text.isBlank c = false := by
  simp only [isQuote, Bool.or_eq_true, beq_iff_eq] at h
  rcases h with (rfl | rfl) | rfl <;> decide

theorem begin_of_isQuote {c : Char} (h : isQuote c = true) : Place.begin c = .quoted c := by
  simp [Place.begin, h]

theorem begin_of_isWordChar {c : Char} (h : Text.isWordChar c = true) :
    Place.begin c = .word [c] := by
  have hquote : isQuote c = false := by
    cases hq : isQuote c with
    | false => rfl
    | true => rw [isWordChar_of_isQuote hq] at h; cases h
  have hminus : c ≠ '-' := by rintro rfl; revert h; decide
  have hslash : c ≠ '/' := by rintro rfl; revert h; decide
  simp [Place.begin, hquote, hminus, hslash, h]

/-! ## Searching for a format clause -/

/-- A search for the first format clause. -/
structure Search where
  place : Place := .bare
  /-- The last word was `format`, and nothing but white space and the word that is being read came
  since. -/
  armed : Bool := false
  found : Option String := none
deriving Repr, DecidableEq

namespace Search

/-- The word that is being read, if there is one, is at its end. -/
def close (s : Search) : Search :=
  match s.place with
  | .word reversed =>
    { place := .bare
      armed := Word.isFormat ⟨reversed.reverse, s.armed⟩
      found := s.found.or
        (if s.armed then formatNamed? (String.ofList reversed.reverse) else none) }
  | _ => s

theorem close_word (reversed : List Char) (armed : Bool) :
    close ⟨.word reversed, armed, none⟩
      = ⟨.bare, Word.isFormat ⟨reversed.reverse, armed⟩,
          if armed then formatNamed? (String.ofList reversed.reverse) else none⟩ := by
  simp only [close, Option.none_or]

def step (s : Search) (c : Char) : Search :=
  let t := if Text.isWordChar c then s else s.close
  { t with
    place := s.place.step c
    armed := t.armed && (Text.isWordChar c || Text.isBlank c) }

def run (s : Search) (cs : List Char) : Search :=
  cs.foldl step s

@[simp] theorem run_nil (s : Search) : s.run [] = s := rfl

@[simp] theorem run_cons (s : Search) (c : Char) (cs : List Char) :
    s.run (c :: cs) = (s.step c).run cs := rfl

theorem run_append (s : Search) (cs ds : List Char) : s.run (cs ++ ds) = (s.run cs).run ds :=
  List.foldl_append

/-- The format found when nothing more comes. -/
def result (s : Search) : Option String :=
  s.close.found

@[simp] theorem place_step (s : Search) (c : Char) : (s.step c).place = s.place.step c := rfl

@[simp] theorem place_run (s : Search) (cs : List Char) : (s.run cs).place = s.place.run cs := by
  induction cs generalizing s with
  | nil => rfl
  | cons c cs ih => rw [run_cons, ih, place_step, Place.run_cons]

/-! ## What was found stays found -/

theorem found_close {s : Search} {format : String} (h : s.found = some format) :
    s.close.found = some format := by
  unfold close
  split <;> simp [h]

theorem found_step {s : Search} {format : String} (h : s.found = some format) (c : Char) :
    (s.step c).found = some format := by
  simp only [step]
  split
  · exact h
  · exact found_close h

theorem result_of_found {s : Search} {format : String} (h : s.found = some format)
    (cs : List Char) : (s.run cs).result = some format := by
  induction cs generalizing s with
  | nil => exact found_close h
  | cons c cs ih => exact ih (found_step h c)

/-! ## Steps outside words -/

/-- Outside a word the end of a word changes nothing. -/
theorem step_of_not_word {s : Search} (h : s.close = s) (c : Char) :
    s.step c = ⟨s.place.step c, s.armed && (Text.isWordChar c || Text.isBlank c), s.found⟩ := by
  simp [step, h]

/-- Behind a word the next character is read as if nothing were in front of it. -/
theorem step_word {reversed : List Char} {armed : Bool} {found : Option String} {c : Char}
    (hc : Text.isWordChar c = false) :
    (⟨.word reversed, armed, found⟩ : Search).step c
      = (close ⟨.word reversed, armed, found⟩).step c := by
  simp [step, hc, close, Place.step]

theorem step_bare (armed : Bool) (c : Char) :
    (⟨.bare, armed, none⟩ : Search).step c
      = ⟨Place.begin c, armed && (Text.isWordChar c || Text.isBlank c), none⟩ :=
  step_of_not_word rfl c

/-! ## Quotes and comments -/

/-- A search that has found nothing and has no `format` in front. -/
def idle (p : Place) : Search :=
  ⟨p, false, none⟩

theorem step_enclosed {p : Place} (h : p.isEnclosed = true) (c : Char) :
    (idle p).step c = idle (p.step c) := by
  cases p <;> simp_all [Place.isEnclosed, idle, step, close]

/-- Two searches that read the next character alike find the same. -/
theorem result_congr {s t : Search} {cs : List Char} (hend : s.result = t.result)
    (h : ∀ c ∈ cs.head?, s.step c = t.step c) : (s.run cs).result = (t.run cs).result := by
  cases cs with
  | nil => exact hend
  | cons c cs => rw [run_cons, run_cons, h c rfl]

theorem step_dash (armed : Bool) : (⟨.bare, armed, none⟩ : Search).step '-' = idle .minus := by
  have hkind : (Text.isWordChar '-' || Text.isBlank '-') = false := by decide
  rw [step_bare, hkind, Bool.and_false]
  rfl

theorem step_solidus (armed : Bool) : (⟨.bare, armed, none⟩ : Search).step '/' = idle .slash := by
  have hkind : (Text.isWordChar '/' || Text.isBlank '/') = false := by decide
  rw [step_bare, hkind, Bool.and_false]
  rfl

/-- A minus sign begins no comment unless another one follows. -/
theorem run_minus {cs : List Char} (h : cs.head? ≠ some '-') :
    ((idle .minus).run cs).result = ((idle .bare).run cs).result := by
  refine result_congr rfl fun c hc => ?_
  have hne : c ≠ '-' := by rintro rfl; exact h hc
  simp [idle, step, close, Place.step, hne]

/-- A slash begins no comment unless a star follows. -/
theorem run_slash {cs : List Char} (h : cs.head? ≠ some '*') :
    ((idle .slash).run cs).result = ((idle .bare).run cs).result := by
  refine result_congr rfl fun c hc => ?_
  have hne : c ≠ '*' := by rintro rfl; exact h hc
  simp [idle, step, close, Place.step, hne]

theorem not_backslash {c : Char} {rest : List Char} (hlone : c = '\\' → rest = [] → False)
    (hpair : ∀ d tail, c = '\\' → rest = d :: tail → False) : c ≠ '\\' := by
  intro hc
  cases rest with
  | nil => exact hlone hc rfl
  | cons d tail => exact hpair d tail hc rfl

theorem run_quoted (quote : Char) (cs : List Char) :
    ((idle (.quoted quote)).run cs).result = ((idle .bare).run (afterQuoted quote cs)).result := by
  fun_induction afterQuoted quote cs with
  | case1 => rfl
  | case2 => rfl
  | case3 c rest ih =>
      rw [run_cons, step_enclosed rfl, run_cons,
        step_enclosed (by simp [Place.step, Place.isEnclosed])]
      simpa [Place.step] using ih
  | case4 c rest hlone hpair hc =>
      have hne : c ≠ '\\' := not_backslash hlone hpair
      rw [run_cons, step_enclosed rfl]
      simp_all [Place.step]
  | case5 c rest hlone hpair hc ih =>
      have hne : c ≠ '\\' := not_backslash hlone hpair
      rw [run_cons, step_enclosed rfl]
      simp_all [Place.step]

theorem run_line (cs : List Char) :
    ((idle .line).run cs).result = ((idle .bare).run (afterLine cs)).result := by
  fun_induction afterLine cs with
  | case1 => rfl
  | case2 c rest hc =>
      rw [run_cons, step_enclosed rfl]
      simp_all [Place.step]
  | case3 c rest hc ih =>
      rw [run_cons, step_enclosed rfl]
      simp_all [Place.step]

theorem run_block (cs : List Char) :
    ((idle .block).run cs).result = ((idle .bare).run (afterBlock cs)).result := by
  fun_induction afterBlock cs with
  | case1 => rfl
  | case2 rest => rfl
  | case3 c rest h ih =>
      rw [run_cons, step_enclosed rfl, ← ih]
      by_cases hstar : c = '*'
      · refine result_congr (by simp [Place.step, hstar, idle, result, close]) fun d hd => ?_
        have hslash : d ≠ '/' := by
          rintro rfl
          obtain ⟨tail, rfl⟩ := List.head?_eq_some_iff.mp hd
          exact h tail hstar rfl
        rw [step_enclosed (by simp [Place.step, hstar, Place.isEnclosed]), step_enclosed rfl]
        simp [Place.step, hstar, hslash]
      · simp [Place.step, hstar]

/-! ## Words -/

theorem run_word (reversed : List Char) (armed : Bool) (cs : List Char) :
    ((⟨.word reversed, armed, none⟩ : Search).run cs).result
      = ((close ⟨.word ((cs.takeWhile Text.isWordChar).reverse ++ reversed), armed, none⟩).run
          (cs.dropWhile Text.isWordChar)).result := by
  induction cs generalizing reversed with
  | nil => rfl
  | cons c cs ih =>
      cases hc : Text.isWordChar c with
      | true =>
          have hstep : (⟨.word reversed, armed, none⟩ : Search).step c
              = ⟨.word (c :: reversed), armed, none⟩ := by
            simp [step, hc, Place.step]
          rw [run_cons, hstep, ih]
          simp [hc]
      | false =>
          simp only [List.takeWhile_cons, hc, List.dropWhile_cons]
          simp [run_cons, step_word hc]

/-! ## What the search finds -/

theorem formatAfter?_wordsFrom (previous : Option Word) (adjacent : Bool) (cs : List Char) :
    formatAfter? previous (wordsFrom adjacent cs)
      = ((⟨.bare, adjacent && previous.any Word.isFormat, none⟩ : Search).run cs).result := by
  -- The search is in front of a word or in what lies between two, with the word before in mind.
  fun_induction wordsFrom adjacent cs generalizing previous with
  | case1 => rfl
  | case2 adjacent c rest hquote _ ih =>
      have hstep := step_bare (adjacent && previous.any Word.isFormat) c
      rw [begin_of_isQuote hquote, isWordChar_of_isQuote hquote, isBlank_of_isQuote hquote,
        Bool.or_false, Bool.and_false] at hstep
      rw [run_cons, hstep, ih previous, Bool.false_and]
      exact (run_quoted c rest).symm
  | case3 adjacent c rest hquote hline _ ih =>
      simp only [Bool.and_eq_true, beq_iff_eq] at hline
      obtain ⟨rfl, hhead⟩ := hline
      obtain ⟨tail, rfl⟩ := List.head?_eq_some_iff.mp hhead
      have hstep : (idle .minus).step '-' = idle .line := by decide
      rw [ih previous, run_cons, run_cons, step_dash, hstep, Bool.false_and]
      exact (run_line tail).symm
  | case4 adjacent c rest hquote hline hblock _ _ ih =>
      simp only [Bool.and_eq_true, beq_iff_eq] at hblock
      obtain ⟨rfl, hhead⟩ := hblock
      obtain ⟨tail, rfl⟩ := List.head?_eq_some_iff.mp hhead
      have hstep : (idle .slash).step '*' = idle .block := by decide
      rw [ih previous, run_cons, run_cons, step_solidus, hstep, Bool.false_and]
      exact (run_block tail).symm
  | case5 adjacent c rest hquote hline hblock hword _ ih =>
      have hstep := step_bare (adjacent && previous.any Word.isFormat) c
      rw [begin_of_isWordChar hword, hword, Bool.true_or, Bool.and_true] at hstep
      rw [run_cons, hstep, run_word, formatAfter?, ih, close_word, List.reverse_append,
        List.reverse_reverse, List.reverse_singleton, List.singleton_append, Bool.true_and,
        Option.any_some]
      split
      · split
        · rename_i format hformat
          refine Eq.symm (result_of_found ?_ _)
          dsimp only at hformat ⊢
          exact hformat
        · rename_i hnone
          rw [hnone]
          rfl
      · rfl
  | case6 adjacent c rest hquote hline hblock hword ih =>
      simp only [Bool.and_eq_true, beq_iff_eq, not_and] at hline hblock
      rw [ih previous, run_cons]
      by_cases hminus : c = '-'
      · subst hminus
        rw [step_dash, run_minus (hline rfl), show Text.isBlank '-' = false by decide,
          Bool.and_false, Bool.false_and]
        rfl
      · by_cases hslash : c = '/'
        · subst hslash
          rw [step_solidus, run_slash (hblock rfl), show Text.isBlank '/' = false by decide,
            Bool.and_false, Bool.false_and]
          rfl
        · have hbegin : Place.begin c = .bare := by
            simp [Place.begin, hquote, hminus, hslash, hword]
          rw [step_bare, hbegin, Bool.eq_false_iff.mpr hword, Bool.false_or, Bool.and_right_comm]

end Search

theorem findFormat?_eq (sql : String) :
    findFormat? sql = ((Search.idle .bare).run sql.toList).result :=
  Search.formatAfter?_wordsFrom none false sql.toList

end QueryClient.Sql
