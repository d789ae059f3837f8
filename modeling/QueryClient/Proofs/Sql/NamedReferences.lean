import QueryClient.Proofs.Sql.Comments
import QueryClient.Sql.Bind
import QueryClient.Text.Split

/-!
# References by name

Where a statement refers to a value by name, told from the text alone: outside quotes, behind a
colon that stands by itself, or between braces. Binding by name cuts a statement into exactly these
references and what stands between them, whatever the values are; each reference gives way to the
literal of its value, and all else is copied.
-/

namespace QueryClient.Sql

/-! ## Names -/

/-- A run of word characters that does not begin with a digit. -/
structure IsName (name : List Char) : Prop where
  words : ∀ c ∈ name, Text.isWordChar c = true
  start : ∃ c ∈ name.head?, Text.isDigit c = false

theorem nameAt_append {name rest : List Char} (h : IsName name) (hrest : Unworded rest) :
    nameAt (name ++ rest) = name := by
  have htake := (Text.takeWhile_append_run h.words hrest).1
  obtain ⟨c, hc, hdigit⟩ := h.start
  cases name with
  | nil => cases hc
  | cons d name =>
      cases hc
      rw [List.cons_append] at htake ⊢
      rw [nameAt, hdigit, if_neg Bool.false_ne_true, htake]

/-- The name in front of a text, if there is one, is as long as it can be. -/
theorem exists_rest_of_nameAt {cs : List Char} (h : nameAt cs ≠ []) :
    IsName (nameAt cs) ∧ ∃ rest, cs = nameAt cs ++ rest ∧ Unworded rest := by
  cases cs with
  | nil => exact absurd rfl h
  | cons c cs =>
      rw [nameAt] at h ⊢
      split at h
      · exact absurd rfl h
      · rename_i hdigit
        rw [if_neg hdigit]
        have hword : Text.isWordChar c = true := by
          cases hc : Text.isWordChar c with
          | true => rfl
          | false => simp [hc] at h
        refine ⟨⟨List.all_eq_true.mp List.all_takeWhile, c, ?_, by simpa using hdigit⟩, _,
          List.takeWhile_append_dropWhile.symm, fun d hd => ?_⟩
        · rw [List.takeWhile_cons_of_pos hword]; rfl
        · have hstop := List.head?_dropWhile_not Text.isWordChar (c :: cs)
          rwa [Option.mem_def.mp hd] at hstop

theorem IsName.run_code {name : List Char} (h : IsName name) : Region.code.run name = .code :=
  (Inert.ofPlain fun c hc => isPlain_of_isWordChar (h.words c hc)).run

/-! ## References -/

/-- How a reference to a name is spelled, between the character before it and the text after it. A
colon belongs to a cast when another one stands beside it; behind it stands a name, and so no
colon, and the name is as long as it can be. -/
inductive Spelling : Option Char → List Char → List Char → List Char → Prop
  | colon {previous name after} (hprevious : previous ≠ some ':') (hafter : Unworded after) :
      Spelling previous (':' :: name) name after
  | braces {previous name after} : Spelling previous ('\x7b' :: (name ++ ['\x7d'])) name after

/-- Between two parts of a statement stands the text of a reference to a key. -/
structure IsReference (isKey : List Char → Bool) (before text name after : List Char) : Prop where
  outside : Region.code.run before = .code
  isName : IsName name
  known : isKey name = true
  spelling : Spelling before.getLast? text name after

variable {isKey : List Char → Bool}

/-- What is spelled as a reference is found there, with its whole length. -/
theorem Spelling.referenceAt?_eq {previous : Option Char} {c : Char} {cs name after : List Char}
    (h : Spelling previous (c :: cs) name after) (hname : IsName name)
    (hknown : isKey name = true) :
    referenceAt? isKey previous c (cs ++ after) = some (name, cs.length) := by
  cases h with
  | colon hprevious hafter =>
      obtain ⟨d, hd, -⟩ := hname.start
      have hcolon : d ≠ ':' := by
        rintro rfl
        exact absurd (hname.words _ (List.mem_of_mem_head? hd)) (by decide)
      have hhead : (cs ++ after).head? = some d := by
        rw [List.head?_append, Option.mem_def.mp hd, Option.some_or]
      simp [referenceAt?, nameAt_append hname hafter, hhead, hcolon, hprevious, hknown]
  | braces =>
      have hat : nameAt (name ++ ['\x7d'] ++ after) = name := by
        rw [List.append_assoc]
        exact nameAt_append hname (unworded_cons (by decide) after)
      have hdrop : (name ++ ['\x7d'] ++ after).drop name.length = '\x7d' :: after := by
        rw [List.append_assoc, List.drop_left]
        rfl
      simp only [referenceAt?, hat, hdrop]
      simp [hknown]

/-- What is found is spelled as a reference to a key. -/
theorem exists_spelling_of_referenceAt? (hkey : isKey [] = false) {previous : Option Char}
    {c : Char} {rest name : List Char} {width : Nat}
    (h : referenceAt? isKey previous c rest = some (name, width)) :
    IsName name ∧ isKey name = true ∧ ∃ cs after, rest = cs ++ after ∧ cs.length = width
      ∧ Spelling previous (c :: cs) name after := by
  have hne : isKey (nameAt rest) = true → nameAt rest ≠ [] := by
    intro hknown hnil
    rw [hnil, hkey] at hknown
    cases hknown
  simp only [referenceAt?, beq_iff_eq, Bool.and_eq_true, bne_iff_ne, ne_eq] at h
  split at h
  · rename_i hc
    split at h
    · rename_i hcolon
      obtain ⟨⟨-, hprevious⟩, hknown⟩ := hcolon
      obtain ⟨hname, after, hrest, hafter⟩ := exists_rest_of_nameAt (hne hknown)
      cases h
      exact ⟨hname, hknown, nameAt rest, after, hrest, rfl, hc ▸ .colon hprevious hafter⟩
    · cases h
  split at h
  · rename_i hc
    split at h
    · rename_i hbraces
      obtain ⟨hknown, hclose⟩ := hbraces
      obtain ⟨hname, after, hrest, -⟩ := exists_rest_of_nameAt (hne hknown)
      have hdrop : rest.drop (nameAt rest).length = after := by
        rw [congrArg (List.drop (nameAt rest).length) hrest, List.drop_left]
      rw [hdrop] at hclose
      obtain ⟨after, rfl⟩ := List.head?_eq_some_iff.mp hclose
      cases h
      refine ⟨hname, hknown, nameAt rest ++ ['\x7d'], after, ?_, List.length_append,
        hc ▸ .braces⟩
      rw [List.append_assoc, List.singleton_append, ← hrest]
    · cases h
  · cases h

namespace IsReference

variable {before text name after text' name' after' : List Char}

/-- A reference begins with a colon or a brace, and holds none behind it. -/
theorem exists_cons (h : IsReference isKey before text name after) :
    ∃ c cs, text = c :: cs ∧ (c = ':' ∨ c = '\x7b') ∧ ':' ∉ cs ∧ '\x7b' ∉ cs := by
  have hname (c : Char) (hc : Text.isWordChar c = false) : c ∉ name := by
    intro hmem
    rw [h.isName.words c hmem] at hc
    cases hc
  cases h.spelling with
  | colon => exact ⟨':', name, rfl, .inl rfl, hname _ (by decide), hname _ (by decide)⟩
  | braces =>
      refine ⟨'\x7b', name ++ ['\x7d'], rfl, .inr rfl, ?_, ?_⟩
      · simp [hname ':' (by decide)]
      · simp [hname '\x7b' (by decide)]

theorem run_text (h : IsReference isKey before text name after) : Region.code.run text = .code := by
  cases h.spelling with
  | colon => exact h.isName.run_code
  | braces =>
      change Region.code.run (name ++ ['\x7d']) = .code
      rw [Region.run_append, h.isName.run_code]
      decide

/-- At one place there is one reference at most. -/
theorem unique (h : IsReference isKey before text name after)
    (h' : IsReference isKey before text' name' after') (htext : text ++ after = text' ++ after') :
    text = text' ∧ name = name' ∧ after = after' := by
  obtain ⟨c, cs, rfl, -⟩ := h.exists_cons
  obtain ⟨c', cs', rfl, -⟩ := h'.exists_cons
  simp only [List.cons_append, List.cons.injEq] at htext
  obtain ⟨rfl, hrest⟩ := htext
  have hat := h.spelling.referenceAt?_eq h.isName h.known
  rw [hrest, h'.spelling.referenceAt?_eq h'.isName h'.known] at hat
  obtain ⟨rfl, hlength⟩ := Prod.mk.inj (Option.some.inj hat)
  obtain ⟨rfl, rfl⟩ := List.append_inj hrest hlength.symm
  exact ⟨rfl, rfl, rfl⟩

end IsReference

/-! ## Cutting a statement into references -/

/-- A part of a statement: text that is copied, or a reference. -/
inductive Portion where
  | verbatim (cs : List Char)
  | reference (text name : List Char)
deriving Repr, DecidableEq

namespace Portion

def text : Portion → List Char
  | verbatim cs => cs
  | reference text _ => text

/-- The text of several parts. -/
def assembled (ps : List Portion) : List Char :=
  ps.flatMap text

/-- What becomes of a part: a reference gives way to the literal of its value. -/
def filled (entries : List (Value × Value)) : Portion → List Char
  | verbatim cs => cs
  | reference text name =>
    match Value.lookup? (String.ofList name) entries with
    | some v => (literal v).toList
    | none => text

theorem assembled_cons (p : Portion) (ps : List Portion) :
    assembled (p :: ps) = p.text ++ assembled ps :=
  List.flatMap_cons

/-- A part as binding sees it, character by character. -/
def segments : Portion → List Segment
  | verbatim cs => cs.map .verbatim
  | reference _ name => [.reference name]

end Portion

open Portion (assembled)

/-- The parts make up the text, and the references among them are all there are in it. -/
structure Segmentation (isKey : List Char → Bool) (cs : List Char) (ps : List Portion) : Prop where
  text_eq : assembled ps = cs
  isReference : ∀ {front back text name}, ps = front ++ .reference text name :: back →
    IsReference isKey (assembled front) text name (assembled back)
  complete : ∀ {before text name after}, cs = before ++ (text ++ after) →
    IsReference isKey before text name after →
    ∃ front back, ps = front ++ .reference text name :: back ∧ assembled front = before

/-- The parts of the rest of a statement, read from the front: behind `before`, a reference is taken
where there is one, and a single character elsewhere. -/
inductive Segmented (isKey : List Char → Bool) : List Char → List Char → List Portion → Prop
  | nil {before} : Segmented isKey before [] []
  | verbatim {before c rest ps}
      (hnone : ∀ text name after, c :: rest = text ++ after →
        ¬ IsReference isKey before text name after)
      (more : Segmented isKey (before ++ [c]) rest ps) :
      Segmented isKey before (c :: rest) (.verbatim [c] :: ps)
  | reference {before text name after ps} (h : IsReference isKey before text name after)
      (more : Segmented isKey (before ++ text) after ps) :
      Segmented isKey before (text ++ after) (.reference text name :: ps)

namespace Segmented

variable {before cs : List Char} {ps : List Portion}

theorem text_eq (h : Segmented isKey before cs ps) : assembled ps = cs := by
  induction h with
  | nil => rfl
  | verbatim _ _ ih => rw [Portion.assembled_cons, ih]; rfl
  | reference _ _ ih => rw [Portion.assembled_cons, ih]; rfl

theorem isReference (h : Segmented isKey before cs ps) {front back : List Portion}
    {text name : List Char} (hps : ps = front ++ .reference text name :: back) :
    IsReference isKey (before ++ assembled front) text name (assembled back) := by
  induction h generalizing front with
  | nil => simp at hps
  | verbatim _ _ ih =>
      cases front with
      | nil => cases hps
      | cons p front =>
          simp only [List.cons_append, List.cons.injEq] at hps
          obtain ⟨rfl, hps⟩ := hps
          have hfound := ih hps
          rwa [List.append_assoc] at hfound
  | reference hreference more ih =>
      cases front with
      | nil =>
          cases hps
          rw [more.text_eq]
          simpa [assembled] using hreference
      | cons p front =>
          simp only [List.cons_append, List.cons.injEq] at hps
          obtain ⟨rfl, hps⟩ := hps
          have hfound := ih hps
          rwa [List.append_assoc] at hfound

/-- A reference is not skipped: up to it the statement is cut at places that are no later, and no
reference reaches into another one. -/
theorem complete (h : Segmented isKey before cs ps) {between text name after : List Char}
    (hcs : cs = between ++ (text ++ after))
    (hreference : IsReference isKey (before ++ between) text name after) :
    ∃ front back, ps = front ++ .reference text name :: back ∧ assembled front = between := by
  induction h generalizing between with
  | nil =>
      obtain ⟨c, cs, rfl, -⟩ := hreference.exists_cons
      simp at hcs
  | @verbatim before c rest ps hnone _ ih =>
      cases between with
      | nil => exact absurd (by simpa using hreference) (hnone text name after hcs)
      | cons d between =>
          simp only [List.cons_append, List.cons.injEq] at hcs
          obtain ⟨rfl, hcs⟩ := hcs
          obtain ⟨front, back, rfl, hfront⟩ := ih hcs (by simpa using hreference)
          exact ⟨.verbatim [c] :: front, back, rfl, by rw [Portion.assembled_cons, hfront]; rfl⟩
  | @reference before text' name' after' ps h' _ ih =>
      cases between with
      | nil =>
          rw [List.append_nil] at hreference
          obtain ⟨rfl, rfl, -⟩ := h'.unique hreference hcs
          exact ⟨[], ps, rfl, rfl⟩
      | cons d between =>
          obtain ⟨c', cs', rfl, -, hcolon, hbrace⟩ := h'.exists_cons
          simp only [List.cons_append, List.cons.injEq] at hcs
          obtain ⟨rfl, hcs⟩ := hcs
          -- the other reference begins behind this one, since none begins inside
          have hinside : ∃ more, between = cs' ++ more ∧ after' = more ++ (text ++ after) := by
            rcases List.append_eq_append_iff.mp hcs with
              ⟨more, rfl, hafter⟩ | ⟨more, rfl, htext⟩
            · exact ⟨more, rfl, hafter⟩
            · obtain ⟨e, es, rfl, he, -⟩ := hreference.exists_cons
              cases more with
              | nil => exact ⟨[], by simp, by simpa using htext.symm⟩
              | cons f more =>
                  simp only [List.cons_append, List.cons.injEq] at htext
                  rcases he with rfl | rfl
                  · simp [← htext.1] at hcolon
                  · simp [← htext.1] at hbrace
          obtain ⟨more, rfl, hafter⟩ := hinside
          obtain ⟨front, back, rfl, hfront⟩ := ih hafter (by simpa using hreference)
          exact ⟨.reference (c' :: cs') name' :: front, back, rfl, by
            rw [Portion.assembled_cons, hfront]; rfl⟩

theorem segmentation (h : Segmented isKey [] cs ps) : Segmentation isKey cs ps where
  text_eq := h.text_eq
  isReference hps := by simpa using h.isReference hps
  complete hcs hreference := h.complete hcs (by simpa using hreference)

end Segmented

/-! ## Binding by name -/

/-- Behind `before` a reference is found exactly where one is spelled outside quotes. -/
theorem isReference_of_found (hkey : isKey [] = false) {before rest name : List Char} {c : Char}
    {width : Nat} (h : (if Region.code.run before == .code
      then referenceAt? isKey before.getLast? c rest else none) = some (name, width)) :
    ∃ cs after, rest = cs ++ after ∧ cs.length = width
      ∧ IsReference isKey before (c :: cs) name after := by
  split at h
  · rename_i hcode
    obtain ⟨hname, hknown, cs, after, hrest, hwidth, hspelling⟩ :=
      exists_spelling_of_referenceAt? hkey h
    exact ⟨cs, after, hrest, hwidth, beq_iff_eq.mp hcode, hname, hknown, hspelling⟩
  · cases h

theorem IsReference.found {before text name after rest : List Char} {c : Char}
    (h : IsReference isKey before text name after) (htext : c :: rest = text ++ after) :
    (if Region.code.run before == .code then referenceAt? isKey before.getLast? c rest else none)
      ≠ none := by
  obtain ⟨c', cs, rfl, -⟩ := h.exists_cons
  simp only [List.cons_append, List.cons.injEq] at htext
  obtain ⟨rfl, rfl⟩ := htext
  rw [if_pos (beq_iff_eq.mpr h.outside), h.spelling.referenceAt?_eq h.isName h.known]
  exact Option.some_ne_none _

/-- Binding by name cuts a statement into its references and single characters. -/
theorem exists_segmented (hkey : isKey [] = false) {r : Region} {previous : Option Char}
    {before cs : List Char} (hr : r = Region.code.run before)
    (hprevious : previous = before.getLast?) : ∃ ps, Segmented isKey before cs ps
      ∧ segmentsFrom isKey r previous cs = ps.flatMap Portion.segments := by
  fun_induction segmentsFrom isKey r previous cs generalizing before with
  | case1 => exact ⟨[], .nil, rfl⟩
  | case2 r previous c rest name width hfound ih =>
      subst hr hprevious
      obtain ⟨cs, after, rfl, rfl, hreference⟩ := isReference_of_found hkey hfound
      rw [List.take_left, List.drop_left] at ih
      have hregion : Region.code = Region.code.run (before ++ c :: cs) := by
        rw [Region.run_append, hreference.outside, hreference.run_text]
      have hlast : (c :: cs).getLast? = (before ++ c :: cs).getLast? := by
        rw [List.getLast?_append, List.getLast?_cons, Option.some_or]
      obtain ⟨ps, hps, hsegments⟩ := ih hregion hlast
      refine ⟨.reference (c :: cs) name :: ps, .reference hreference hps, ?_⟩
      rw [List.take_left, List.drop_left, hsegments]
      rfl
  | case3 r previous c rest hnone ih =>
      subst hr hprevious
      have hregion : (Region.code.run before).step c = Region.code.run (before ++ [c]) := by
        rw [Region.run_append]; rfl
      obtain ⟨ps, hps, hsegments⟩ := ih hregion (List.getLast?_concat ..).symm
      refine ⟨.verbatim [c] :: ps, .verbatim (fun text name after htext h => ?_) hps, ?_⟩
      · exact h.found htext hnone
      · rw [hsegments]; rfl

/-- The entries are those of a dictionary with the given keys, all of them texts. -/
def KeyedBy (keys : List String) (entries : List (Value × Value)) : Prop :=
  ∀ k, k ∈ entries.map (·.1) ↔ ∃ name ∈ keys, k = .text name

theorem isSome_lookup? {name : String} {entries : List (Value × Value)} :
    (Value.lookup? name entries).isSome = true ↔ .text name ∈ entries.map (·.1) := by
  induction entries with
  | nil => simp [Value.lookup?]
  | cons e entries ih =>
      obtain ⟨k, v⟩ := e
      cases k with
      | text s =>
          rw [Value.lookup?]
          split
          · rename_i hs
            simp [beq_iff_eq.mp hs]
          · rename_i hs
            rw [ih]
            simp [Ne.symm (by simpa using hs : s ≠ name)]
      | _ => simpa [Value.lookup?] using ih

/-- The names of the keys, as the references of a statement give them. -/
def isKeyOf (keys : List String) (name : List Char) : Bool :=
  keys.contains (String.ofList name)

theorem KeyedBy.isSome_lookup?_eq {keys : List String} {entries : List (Value × Value)}
    (h : KeyedBy keys entries) :
    (fun name => (Value.lookup? (String.ofList name) entries).isSome) = isKeyOf keys := by
  funext name
  rw [Bool.eq_iff_iff, isSome_lookup?, h]
  simp [isKeyOf]

theorem Segmented.fill_segments {before cs : List Char} {ps : List Portion}
    (h : Segmented isKey before cs ps) (entries : List (Value × Value))
    (hknown : ∀ name, isKey name = true →
      (Value.lookup? (String.ofList name) entries).isSome = true) :
    (ps.flatMap Portion.segments).flatMap
        (Segment.fill fun name => Value.lookup? (String.ofList name) entries)
      = ps.flatMap (Portion.filled entries) := by
  induction h with
  | nil => rfl
  | verbatim _ _ ih =>
      simp only [List.flatMap_cons, List.flatMap_append, ih]
      rfl
  | reference hreference _ ih =>
      obtain ⟨v, hv⟩ := Option.isSome_iff_exists.mp (hknown _ hreference.known)
      simp only [List.flatMap_cons, List.flatMap_append, ih]
      simp [Portion.segments, Portion.filled, Segment.fill, hv]

/-- Without entries nothing is put in. -/
theorem Portion.filled_nil : Portion.filled [] = Portion.text := by
  funext p
  cases p <;> rfl

theorem bindNamed_nil (sql : String) : bindNamed sql [] = sql := by
  have hsegmented : ∃ ps, Segmented (fun _ => false) [] sql.toList ps
      ∧ segmentsFrom (fun _ => false) .code none sql.toList = ps.flatMap Portion.segments :=
    exists_segmented rfl rfl rfl
  obtain ⟨ps, hps, hsegments⟩ := hsegmented
  have hfill := hps.fill_segments [] (fun _ h => absurd h Bool.false_ne_true)
  rw [← hsegments, Portion.filled_nil] at hfill
  calc bindNamed sql [] = String.ofList (assembled ps) := congrArg String.ofList hfill
    _ = sql := by rw [hps.text_eq, String.ofList_toList]

theorem bind_dict (sql : String) (entries : List (Value × Value)) :
    bind sql (.dict entries) = .ok (bindNamed sql entries) := by
  cases entries with
  | nil => rw [bindNamed_nil]; rfl
  | cons e entries => rfl

/-- A statement and the keys alone tell how it is cut into references and text between them; each
reference gives way to the literal of its value, and the text is copied. -/
theorem bind_named_segmentation (sql : String) (keys : List String) (hkeys : "" ∉ keys) :
    ∃ ps, Segmentation (isKeyOf keys) sql.toList ps ∧ ∀ entries, KeyedBy keys entries →
      bind sql (.dict entries) = .ok (String.ofList (ps.flatMap (Portion.filled entries))) := by
  have hkey : isKeyOf keys [] = false := by simpa [isKeyOf] using hkeys
  have hsegmented : ∃ ps, Segmented (isKeyOf keys) [] sql.toList ps
      ∧ segmentsFrom (isKeyOf keys) .code none sql.toList = ps.flatMap Portion.segments :=
    exists_segmented hkey rfl rfl
  obtain ⟨ps, hps, hsegments⟩ := hsegmented
  refine ⟨ps, hps.segmentation, fun entries hentries => ?_⟩
  have hfill := hps.fill_segments entries fun name hname => by
    rwa [← hentries.isSome_lookup?_eq] at hname
  rw [bind_dict, bindNamed, hentries.isSome_lookup?_eq, segments, hsegments, hfill]

/-- A colon between quotes, a cast, a longer name and a reference in a value are none. -/
theorem bind_named_segmentation_cast :
    let sql := "select :a, ':a \x7bb\x7d', c::a, \x7bb\x7d:ab"
    let entries := [(Value.text "b", Value.int 2), (.text "a", .text ":b")]
    "" ∉ ["a", "b"] ∧ KeyedBy ["a", "b"] entries
      ∧ bind sql (.dict entries) = .ok "select ':b', ':a \x7bb\x7d', c::a, 2:ab"
      ∧ ∃ ps, Segmentation (isKeyOf ["a", "b"]) sql.toList ps
        ∧ String.ofList (ps.flatMap (Portion.filled entries))
          = "select ':b', ':a \x7bb\x7d', c::a, 2:ab" := by
  intro sql entries
  have hkeys : "" ∉ ["a", "b"] := by decide
  have hentries : KeyedBy ["a", "b"] entries := by
    intro k
    simp [entries, or_comm]
  have hout : bind sql (.dict entries) = .ok "select ':b', ':a \x7bb\x7d', c::a, 2:ab" := by
    rw [bind_dict, Except.ok.injEq]
    decide +kernel
  obtain ⟨ps, hps, hbind⟩ := bind_named_segmentation sql ["a", "b"] hkeys
  refine ⟨hkeys, hentries, hout, ps, hps, ?_⟩
  rw [hbind entries hentries] at hout
  exact Except.ok.inj hout

/-- A key with a blank stands between braces, and is not bound. -/
theorem braced_key_not_bound :
    let entries := [(Value.text "a b", Value.int 5)]
    bind "\x7ba b\x7d" (.dict entries) = .ok "\x7ba b\x7d" ∧ ¬ ∃ ps,
      assembled ps = "\x7ba b\x7d".toList
        ∧ (∀ before name after,
          "\x7ba b\x7d".toList = before ++ '\x7b' :: (name ++ '\x7d' :: after) →
          Region.code.run before = .code → isKeyOf ["a b"] name = true →
          ∃ front back, ps = front ++ .reference ('\x7b' :: (name ++ ['\x7d'])) name :: back
            ∧ assembled front = before)
        ∧ bind "\x7ba b\x7d" (.dict entries)
          = .ok (String.ofList (ps.flatMap (Portion.filled entries))) := by
  intro entries
  have hout : bind "\x7ba b\x7d" (.dict entries) = .ok "\x7ba b\x7d" := by
    rw [bind_dict, Except.ok.injEq]
    decide +kernel
  refine ⟨hout, ?_⟩
  rintro ⟨ps, -, hcomplete, hfilled⟩
  obtain ⟨front, back, rfl, hfront⟩ := hcomplete [] "a b".toList [] rfl rfl rfl
  -- nothing stands in front of the reference, so that the result begins with the number
  have hdigits : ∀ c ∈ front.flatMap (Portion.filled entries), c = '5' := by
    intro c hc
    obtain ⟨p, hp, hc⟩ := List.mem_flatMap.mp hc
    have htext : p.text = [] := List.flatMap_eq_nil_iff.mp hfront p hp
    cases p with
    | verbatim cs => cases htext; cases hc
    | reference text name =>
        cases htext
        simp only [Portion.filled, entries, Value.lookup?] at hc
        split at hc
        · rename_i v hv
          split at hv
          · cases hv
            exact List.mem_singleton.mp hc
          · cases hv
        · cases hc
  have hnumber : Portion.filled entries
      (.reference ('\x7b' :: ("a b".toList ++ ['\x7d'])) "a b".toList) = ['5'] := rfl
  rw [hout] at hfilled
  have hresult : ['\x7b', 'a', ' ', 'b', '\x7d'] = front.flatMap (Portion.filled entries)
      ++ '5' :: back.flatMap (Portion.filled entries) := by
    have hlists := String.ofList_inj.mp (Except.ok.inj hfilled)
    rwa [List.flatMap_append, List.flatMap_cons, hnumber] at hlists
  cases hcs : front.flatMap (Portion.filled entries) with
  | nil =>
      rw [hcs] at hresult
      exact absurd (List.cons.inj hresult).1 (by decide)
  | cons c cs =>
      rw [hcs] at hresult hdigits
      have hc := (List.cons.inj hresult).1
      rw [hdigits c List.mem_cons_self] at hc
      exact absurd hc (by decide)

end QueryClient.Sql
