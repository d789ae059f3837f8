import QueryClient.Http.QueryString
import QueryClient.Json.Reader
import QueryClient.Proofs.Text.Utf8

/-!
# Reading query strings

The other side of a query string, as a server reads it: parameters stand between ampersands, a name
ends at the first equals sign, and escaped bytes are a text in UTF-8. What is read from a query
string that was written are the parameters, with the text of every value.
-/

namespace QueryClient.Http

/-! ## Reading -/

/-- The bytes of an escaped text. A plus stands for a space, and a percent sign that no two
hexadecimal digits follow for itself. -/
def unescape : List Char → List UInt8
  | [] => []
  | '%' :: high :: low :: rest =>
    match Json.hexValue? high, Json.hexValue? low with
    | some h, some l => (h * 16 + l).toUInt8 :: unescape rest
    | _, _ => 0x25 :: unescape (high :: low :: rest)
  | c :: rest => (if c = '+' then [0x20] else Text.encodeChar c) ++ unescape rest

def unescapedText (cs : List Char) : String :=
  Text.decodeLenient (unescape cs)

/-- A name and a value. -/
def parameterOf (part : List Char) : String × String :=
  (unescapedText (part.takeWhile (· != '=')), unescapedText ((part.dropWhile (· != '=')).drop 1))

/-- The parameters of a query string. -/
def parametersOf (query : String) : List (String × String) :=
  ((Text.splitAtElement '&' query.toList).filter fun part => !part.isEmpty).map parameterOf

/-- The query of an address: what stands behind its first question mark, up to the mark of a
fragment. -/
def queryOf (url : String) : String :=
  String.ofList (((url.toList.takeWhile (· != '#')).dropWhile (· != '?')).drop 1)

/-- The parameters of an address. -/
def urlParameters (url : String) : List (String × String) :=
  parametersOf (queryOf url)

/-- The text of a value, as it arrives. -/
def parameterText (v : Value) : String :=
  Text.decodeLenient (parameterBytes v)

@[simp] theorem parameterText_text (s : String) : parameterText (.text s) = s :=
  Text.decodeLenient_encode s

@[simp] theorem parameterText_int (n : Int) : parameterText (.int n) = toString n :=
  Text.decodeLenient_encode _

/-! ## Escaped bytes -/

theorem toNat_lt_of_isUnreserved {c : Char} (h : isUnreserved c = true) : c.toNat < 0x80 := by
  have hle : ∀ {d : Char}, d.toNat < 0x80 → c ≤ d → c.toNat < 0x80 := fun hd hcd =>
    Nat.lt_of_le_of_lt (show c.toNat ≤ _ from hcd) hd
  simp only [isUnreserved, Bool.or_eq_true, Bool.and_eq_true, decide_eq_true_eq, beq_iff_eq] at h
  rcases h with (((((h | h) | h) | rfl) | rfl) | rfl) | rfl
  · exact hle (by decide) h.2
  · exact hle (by decide) h.2
  · exact hle (by decide) h.2
  all_goals decide

theorem hexValue?_upper {n : Nat} (h : n < 16) :
    Json.hexValue? (Text.hexDigit n).toUpper = some n := by
  have hall : ∀ n : Fin 16, Json.hexValue? (Text.hexDigit n.val).toUpper = some n.val := by decide
  exact hall ⟨n, h⟩

/-- The ways in which a byte is written. -/
theorem escapeByte_cases (b : UInt8) :
    (∃ c, escapeByte b = [c] ∧ isUnreserved c = true ∧ Text.encodeChar c = [b])
      ∨ (b = 0x20 ∧ escapeByte b = ['+'])
      ∨ escapeByte b
        = ['%', (Text.hexDigit (b.toNat / 16)).toUpper, (Text.hexDigit (b.toNat % 16)).toUpper] := by
  have hlt : b.toNat < 256 := b.toNat_lt
  have hnat : (Char.ofNat b.toNat).toNat = b.toNat := by
    have hvalid : b.toNat.isValidChar := .inl (by omega)
    rw [Char.ofNat, dif_pos hvalid]
    rfl
  unfold escapeByte
  by_cases hfree : isUnreserved (Char.ofNat b.toNat) = true
  · refine .inl ⟨Char.ofNat b.toNat, by simp only [hfree, ↓reduceIte], hfree, ?_⟩
    have hbound := toNat_lt_of_isUnreserved hfree
    rw [Text.encodeChar, if_pos hbound, hnat]
    simp
  · by_cases hspace : Char.ofNat b.toNat = ' '
    · refine .inr (.inl ⟨UInt8.toNat_inj.mp ?_, ?_⟩)
      · rw [← hnat, hspace]
        rfl
      · have hblank : isUnreserved ' ' = false := by decide
        simp only [hspace, hblank, Bool.false_eq_true, beq_self_eq_true, ↓reduceIte]
    · refine .inr (.inr ?_)
      have hdiv : b.toNat / 16 % 16 = b.toNat / 16 := by omega
      simp [hfree, hspace, Text.hexDigits, hdiv]

theorem unescape_plain {c : Char} (h : c ≠ '%') (rest : List Char) :
    unescape (c :: rest)
      = (if c = '+' then [0x20] else Text.encodeChar c) ++ unescape rest := by
  rw [unescape]
  rintro high low tail rfl
  exact absurd rfl h

theorem unescape_escapeByte (b : UInt8) (rest : List Char) :
    unescape (escapeByte b ++ rest) = b :: unescape rest := by
  rcases escapeByte_cases b with ⟨c, hc, hfree, hbyte⟩ | ⟨rfl, hc⟩ | hc
  · have hne : ∀ d, isUnreserved d = false → c ≠ d := by
      rintro d hd rfl
      rw [hfree] at hd
      cases hd
    rw [hc, List.singleton_append, unescape_plain (hne '%' (by decide)),
      if_neg (hne '+' (by decide)), hbyte, List.singleton_append]
  · rw [hc, List.singleton_append, unescape_plain (by decide), if_pos rfl, List.singleton_append]
  · have hlt : b.toNat < 256 := b.toNat_lt
    have hbyte : (b.toNat / 16 * 16 + b.toNat % 16).toUInt8 = b := by
      rw [Nat.div_add_mod']
      simp
    simp only [hc, List.cons_append, List.nil_append, unescape,
      hexValue?_upper (show b.toNat / 16 < 16 by omega),
      hexValue?_upper (Nat.mod_lt b.toNat (show 16 > 0 by decide)), hbyte]

theorem unescape_escaped (data : List UInt8) (rest : List Char) :
    unescape (data.flatMap escapeByte ++ rest) = data ++ unescape rest := by
  induction data with
  | nil => rfl
  | cons b data ih =>
      rw [List.flatMap_cons, List.append_assoc, unescape_escapeByte, ih, List.cons_append]

theorem unescapedText_escaped (data : List UInt8) :
    unescapedText (data.flatMap escapeByte) = Text.decodeLenient data := by
  have hdata := unescape_escaped data []
  rw [List.append_nil, unescape, List.append_nil] at hdata
  rw [unescapedText, hdata]

theorem bne_of_not_mem {d : Char} {cs : List Char} (h : d ∉ cs) : ∀ c ∈ cs, (c != d) = true := by
  intro c hc
  rw [bne_iff_ne]
  rintro rfl
  exact h hc

/-- An escaped text holds no separator and no mark of a fragment. -/
theorem not_mem_escaped {d : Char} (hd : d ∈ ['&', '=', '#']) (data : List UInt8) :
    d ∉ data.flatMap escapeByte := by
  have hfixed : ∀ d ∈ ['&', '=', '#'], isUnreserved d = false ∧ d ≠ '+' ∧ d ≠ '%' := by decide
  have hdigit : ∀ d ∈ ['&', '=', '#'], ∀ n : Fin 16, (Text.hexDigit n.val).toUpper ≠ d := by decide
  obtain ⟨hreserved, hplus, hpercent⟩ := hfixed d hd
  rw [List.mem_flatMap]
  rintro ⟨b, -, hb⟩
  rcases escapeByte_cases b with ⟨c, hc, hfree, -⟩ | ⟨-, hc⟩ | hc
  · rw [hc, List.mem_singleton] at hb
    rw [← hb, hreserved] at hfree
    cases hfree
  · rw [hc, List.mem_singleton] at hb
    exact hplus hb
  · have hlt : b.toNat < 256 := b.toNat_lt
    simp only [hc, List.mem_cons, List.not_mem_nil, or_false] at hb
    rcases hb with hb | hb | hb
    · exact hpercent hb
    · exact hdigit d hd ⟨_, by omega⟩ hb.symm
    · exact hdigit d hd ⟨_, Nat.mod_lt _ (by decide)⟩ hb.symm

/-! ## Parameters -/

def writtenParameter (name : String) (v : Value) : List Char :=
  (Text.encode name).flatMap escapeByte ++ '=' :: (parameterBytes v).flatMap escapeByte

theorem parameterOf_written (name : String) (v : Value) :
    parameterOf (writtenParameter name v) = (name, parameterText v) := by
  have hname : ∀ c ∈ (Text.encode name).flatMap escapeByte, (c != '=') = true :=
    bne_of_not_mem (not_mem_escaped (by decide) _)
  simp only [parameterOf, writtenParameter, List.takeWhile_append_of_pos hname,
    List.dropWhile_append_of_pos hname, List.takeWhile_cons, List.dropWhile_cons, bne_self_eq_false,
    Bool.false_eq_true, ↓reduceIte, List.append_nil, List.drop_succ_cons, List.drop_zero,
    unescapedText_escaped, Text.decodeLenient_encode, parameterText]

theorem not_mem_written {d : Char} (hd : d ∈ ['&', '#']) (name : String) (v : Value) :
    d ∉ writtenParameter name v := by
  have hmark : ∀ d ∈ ['&', '#'], d ∈ ['&', '=', '#'] ∧ d ≠ '=' := by decide
  obtain ⟨hmem, hne⟩ := hmark d hd
  simp only [writtenParameter, List.mem_append, List.mem_cons, not_or]
  exact ⟨not_mem_escaped hmem _, hne, not_mem_escaped hmem _⟩

theorem toList_queryString_cons (name : String) (v : Value) (ps : Entries Value) :
    (queryString ((name, v) :: ps)).toList
      = writtenParameter name v ++ (if ps.isEmpty then [] else '&' :: (queryString ps).toList) := by
  have hwritten : (escapeBytes (Text.encode name) ++ "=" ++ escapeBytes (parameterBytes v)).toList
      = writtenParameter name v := by
    simp [escapeBytes, writtenParameter]
  cases ps with
  | nil => simpa [queryString] using hwritten
  | cons p ps =>
      simp only [queryString, List.map_cons, Text.join_cons_cons, String.toList_append, hwritten]
      simp

theorem parametersOf_queryString (ps : Entries Value) :
    parametersOf (queryString ps) = ps.map fun (name, v) => (name, parameterText v) := by
  induction ps with
  | nil => rfl
  | cons p ps ih =>
      obtain ⟨name, v⟩ := p
      have hne : (writtenParameter name v).isEmpty = false := by
        simp [writtenParameter]
      have hsplit := Text.splitAtElement_of_not_mem (not_mem_written (d := '&') (by decide) name v)
      rw [parametersOf, toList_queryString_cons]
      cases ps with
      | nil =>
          simp [hsplit, hne, parameterOf_written]
      | cons p ps =>
          rw [parametersOf] at ih
          simp only [List.isEmpty_cons, Bool.false_eq_true, ↓reduceIte,
            Text.splitAtElement_append, hsplit,
            List.singleton_append, List.filter_cons, hne, Bool.not_false, List.map_cons,
            parameterOf_written, ih]

/-! ## Addresses -/

theorem not_mem_queryString (ps : Entries Value) : '#' ∉ (queryString ps).toList := by
  induction ps with
  | nil => simp [queryString]
  | cons p ps ih =>
      rw [toList_queryString_cons, List.mem_append, not_or]
      refine ⟨not_mem_written (by decide) _ _, ?_⟩
      split
      · simp
      · simpa using ih

/-- An address has a question mark or a mark of a fragment only where it is written. -/
def IsBare (address : String) : Prop :=
  '?' ∉ address.toList ∧ '#' ∉ address.toList

instance (address : String) : Decidable (IsBare address) :=
  inferInstanceAs (Decidable (_ ∧ _))

theorem urlParameters_eq {address : String} (h : IsBare address) (ps : Entries Value) :
    urlParameters (address ++ "?" ++ queryString ps)
      = ps.map fun (name, v) => (name, parameterText v) := by
  have hmark : '#' ∉ (address ++ "?" ++ queryString ps).toList := by
    simp [h.2, not_mem_queryString]
  have hwhole := @List.takeWhile_append_of_pos _ _ _ [] (bne_of_not_mem hmark)
  rw [List.takeWhile_nil, List.append_nil] at hwhole
  have hquery : queryOf (address ++ "?" ++ queryString ps) = queryString ps := by
    rw [queryOf, hwhole]
    simp [List.dropWhile_append_of_pos (bne_of_not_mem h.1)]
  rw [urlParameters, hquery, parametersOf_queryString]

end QueryClient.Http
