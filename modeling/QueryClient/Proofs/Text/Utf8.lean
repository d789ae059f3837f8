import QueryClient.Text.Utf8

/-!
# Reading UTF-8 back

What a text is encoded as reads back as that text. A character takes one to four bytes, and each of
these sequences is read in one step, whatever bytes come after it.
-/

namespace QueryClient.Text

/-! ## Sequences of each width -/

/-- A byte that may continue a sequence and does not make it too long or too large. -/
structure Continues (leading second : UInt8) : Prop where
  least : 0x80 ≤ second.toNat
  greatest : second.toNat ≤ 0xbf
  ofE0 : leading.toNat = 0xe0 → 0xa0 ≤ second.toNat
  ofED : leading.toNat = 0xed → second.toNat ≤ 0x9f
  ofF0 : leading.toNat = 0xf0 → 0x90 ≤ second.toNat
  ofF4 : leading.toNat = 0xf4 → second.toNat ≤ 0x8f

theorem Continues.within {leading second : UInt8} (h : Continues leading second) :
    (decide (second < (secondByteBounds leading).1)
      || decide ((secondByteBounds leading).2 < second)) = false := by
  obtain ⟨hleast, hgreatest, hE0, hED, hF0, hF4⟩ := h
  unfold secondByteBounds
  simp only [Bool.or_eq_false_iff, decide_eq_false_iff_not, beq_iff_eq, UInt8.lt_iff_toNat_lt,
    ← UInt8.toNat_inj, UInt8.reduceToNat]
  split
  · exact ⟨Nat.not_lt.mpr (hE0 ‹_›), Nat.not_lt.mpr hgreatest⟩
  · split
    · exact ⟨Nat.not_lt.mpr hleast, Nat.not_lt.mpr (hED ‹_›)⟩
    · split
      · exact ⟨Nat.not_lt.mpr (hF0 ‹_›), Nat.not_lt.mpr hgreatest⟩
      · split
        · exact ⟨Nat.not_lt.mpr hleast, Nat.not_lt.mpr (hF4 ‹_›)⟩
        · exact ⟨Nat.not_lt.mpr hleast, Nat.not_lt.mpr hgreatest⟩

theorem utf8Step_one {leading : UInt8} (h : leading.toNat < 0x80) (rest : List UInt8) :
    utf8Step leading rest = .char (Char.ofNat leading.toNat) 1 := by
  have hlt : leading < 0x80 := UInt8.lt_iff_toNat_lt.mpr h
  simp only [utf8Step, hlt, ↓reduceIte]

/-- A leading byte of more than one. -/
theorem utf8Step_leading {leading second : UInt8} {rest : List UInt8}
    (hleast : 0xc2 ≤ leading.toNat) (hgreatest : leading.toNat ≤ 0xf4)
    (hsecond : Continues leading second) :
    utf8Step leading (second :: rest)
      = if leading < 0xe0 then
          .char (Char.ofNat ((leading.toNat - 0xc0) * 64 + payload second)) 2
        else match rest with
          | [] => .broken 2
          | third :: rest =>
            if !isContinuation third then .broken 2
            else if leading < 0xf0 then
              .char
                (Char.ofNat ((leading.toNat - 0xe0) * 4096 + payload second * 64 + payload third)) 3
            else match rest with
              | [] => .broken 3
              | fourth :: _ =>
                if !isContinuation fourth then .broken 3
                else .char (Char.ofNat ((leading.toNat - 0xf0) * 262144 + payload second * 4096
                  + payload third * 64 + payload fourth)) 4 := by
  have hone : ¬leading < 0x80 :=
    UInt8.not_lt.mpr (UInt8.le_iff_toNat_le.mpr (Nat.le_trans (by decide) hleast))
  have hrange : (decide (leading < 0xc2) || decide (0xf4 < leading)) = false := by
    rw [Bool.or_eq_false_iff, decide_eq_false_iff_not, decide_eq_false_iff_not, UInt8.not_lt,
      UInt8.not_lt]
    exact ⟨UInt8.le_iff_toNat_le.mpr hleast, UInt8.le_iff_toNat_le.mpr hgreatest⟩
  simp only [utf8Step, hone, hrange, Bool.false_eq_true, ↓reduceIte]
  exact if_neg (Bool.eq_false_iff.mp hsecond.within)

theorem utf8Step_two {leading second : UInt8} {rest : List UInt8} (hleast : 0xc2 ≤ leading.toNat)
    (hgreatest : leading.toNat < 0xe0) (hsecond : Continues leading second) :
    utf8Step leading (second :: rest)
      = .char (Char.ofNat ((leading.toNat - 0xc0) * 64 + payload second)) 2 := by
  have hlt : leading < 0xe0 := UInt8.lt_iff_toNat_lt.mpr hgreatest
  rw [utf8Step_leading hleast (by omega) hsecond, if_pos hlt]

theorem utf8Step_three {leading second third : UInt8} {rest : List UInt8}
    (hleast : 0xe0 ≤ leading.toNat) (hgreatest : leading.toNat < 0xf0)
    (hsecond : Continues leading second) (hthird : isContinuation third = true) :
    utf8Step leading (second :: third :: rest)
      = .char (Char.ofNat ((leading.toNat - 0xe0) * 4096 + payload second * 64 + payload third))
          3 := by
  have hlt : ¬leading < 0xe0 := UInt8.not_lt.mpr (UInt8.le_iff_toNat_le.mpr hleast)
  have hlt' : leading < 0xf0 := UInt8.lt_iff_toNat_lt.mpr hgreatest
  rw [utf8Step_leading (by omega) (by omega) hsecond, if_neg hlt]
  simp only [hthird, hlt', Bool.not_true, Bool.false_eq_true, ↓reduceIte]

theorem utf8Step_four {leading second third fourth : UInt8} {rest : List UInt8}
    (hleast : 0xf0 ≤ leading.toNat) (hgreatest : leading.toNat ≤ 0xf4)
    (hsecond : Continues leading second) (hthird : isContinuation third = true)
    (hfourth : isContinuation fourth = true) :
    utf8Step leading (second :: third :: fourth :: rest)
      = .char (Char.ofNat ((leading.toNat - 0xf0) * 262144 + payload second * 4096
          + payload third * 64 + payload fourth)) 4 := by
  have hlt : ¬leading < 0xe0 :=
    UInt8.not_lt.mpr (UInt8.le_iff_toNat_le.mpr (Nat.le_trans (by decide) hleast))
  have hlt' : ¬leading < 0xf0 := UInt8.not_lt.mpr (UInt8.le_iff_toNat_le.mpr hleast)
  rw [utf8Step_leading (by omega) hgreatest hsecond, if_neg hlt]
  simp only [hthird, hfourth, hlt', Bool.not_true, Bool.false_eq_true, ↓reduceIte]

/-! ## Characters -/

/-- A byte with six bits of a number. -/
theorem toNat_tail (n : Nat) : (0x80 + n % 64).toUInt8.toNat = 0x80 + n % 64 :=
  UInt8.toNat_ofNat_of_lt' (by simp only [UInt8.size]; omega)

theorem payload_tail (n : Nat) : payload (0x80 + n % 64).toUInt8 = n % 64 := by
  rw [payload, toNat_tail]
  omega

theorem isContinuation_tail (n : Nat) : isContinuation (0x80 + n % 64).toUInt8 = true := by
  simp only [isContinuation, Bool.and_eq_true, decide_eq_true_eq, UInt8.le_iff_toNat_le,
    toNat_tail, UInt8.reduceToNat]
  omega

theorem ofNat_eq {c : Char} {n : Nat} (h : n = c.toNat) : Char.ofNat n = c := by
  rw [h, Char.ofNat_toNat]

variable {c : Char} (rest : List UInt8)

theorem utf8Step_of_lt_80 (h : c.toNat < 0x80) : utf8Step c.toNat.toUInt8 rest = .char c 1 := by
  have hleading : c.toNat.toUInt8.toNat = c.toNat :=
    UInt8.toNat_ofNat_of_lt' (by simp only [UInt8.size]; omega)
  rw [utf8Step_one (by omega), hleading, Char.ofNat_toNat]

theorem utf8Step_of_lt_800 (hleast : ¬c.toNat < 0x80) (h : c.toNat < 0x800) :
    utf8Step (0xc0 + c.toNat / 64).toUInt8 ((0x80 + c.toNat % 64).toUInt8 :: rest)
      = .char c 2 := by
  have hleading : (0xc0 + c.toNat / 64).toUInt8.toNat = 0xc0 + c.toNat / 64 :=
    UInt8.toNat_ofNat_of_lt' (by simp only [UInt8.size]; omega)
  have hsecond : Continues (0xc0 + c.toNat / 64).toUInt8 (0x80 + c.toNat % 64).toUInt8 := by
    constructor <;> simp only [hleading, toNat_tail] <;> omega
  rw [utf8Step_two (by omega) (by omega) hsecond, hleading, payload_tail, ofNat_eq]
  omega

theorem utf8Step_of_lt_10000 (hleast : ¬c.toNat < 0x800) (h : c.toNat < 0x10000) :
    utf8Step (0xe0 + c.toNat / 4096).toUInt8
        ((0x80 + c.toNat / 64 % 64).toUInt8 :: (0x80 + c.toNat % 64).toUInt8 :: rest)
      = .char c 3 := by
  have hvalid : c.toNat < 0xd800 ∨ 0xdfff < c.toNat ∧ c.toNat < 0x110000 := c.valid
  have hleading : (0xe0 + c.toNat / 4096).toUInt8.toNat = 0xe0 + c.toNat / 4096 :=
    UInt8.toNat_ofNat_of_lt' (by simp only [UInt8.size]; omega)
  have hsecond :
      Continues (0xe0 + c.toNat / 4096).toUInt8 (0x80 + c.toNat / 64 % 64).toUInt8 := by
    constructor <;> simp only [hleading, toNat_tail] <;> omega
  rw [utf8Step_three (by omega) (by omega) hsecond (isContinuation_tail _), hleading, payload_tail,
    payload_tail, ofNat_eq]
  omega

theorem utf8Step_of_le (h : ¬c.toNat < 0x10000) :
    utf8Step (0xf0 + c.toNat / 262144).toUInt8
        ((0x80 + c.toNat / 4096 % 64).toUInt8 :: (0x80 + c.toNat / 64 % 64).toUInt8
          :: (0x80 + c.toNat % 64).toUInt8 :: rest)
      = .char c 4 := by
  have hvalid : c.toNat < 0xd800 ∨ 0xdfff < c.toNat ∧ c.toNat < 0x110000 := c.valid
  have hleading : (0xf0 + c.toNat / 262144).toUInt8.toNat = 0xf0 + c.toNat / 262144 :=
    UInt8.toNat_ofNat_of_lt' (by simp only [UInt8.size]; omega)
  have hsecond :
      Continues (0xf0 + c.toNat / 262144).toUInt8 (0x80 + c.toNat / 4096 % 64).toUInt8 := by
    constructor <;> simp only [hleading, toNat_tail] <;> omega
  rw [utf8Step_four (by omega) (by omega) hsecond (isContinuation_tail _) (isContinuation_tail _),
    hleading, payload_tail, payload_tail, payload_tail, ofNat_eq]
  omega

theorem utf8Steps_skip (tail rest : List UInt8) :
    utf8Steps tail.length (tail ++ rest) = utf8Steps 0 rest := by
  induction tail with
  | nil => rfl
  | cons b tail ih => exact ih

theorem utf8Steps_of_char {leading : UInt8} {tail rest : List UInt8} {c : Char}
    (h : utf8Step leading (tail ++ rest) = .char c (tail.length + 1)) :
    utf8Steps 0 (leading :: tail ++ rest) = .char c (tail.length + 1) :: utf8Steps 0 rest := by
  rw [List.cons_append, utf8Steps, h]
  exact congrArg _ (utf8Steps_skip tail rest)

/-- The bytes of a character are read in one step. -/
theorem utf8Steps_encodeChar (c : Char) (rest : List UInt8) :
    ∃ width, utf8Steps 0 (encodeChar c ++ rest) = .char c width :: utf8Steps 0 rest := by
  simp only [encodeChar]
  split
  · rename_i h
    exact ⟨_, utf8Steps_of_char (utf8Step_of_lt_80 rest h)⟩
  · rename_i hleast
    split
    · rename_i h
      exact ⟨_, utf8Steps_of_char (utf8Step_of_lt_800 rest hleast h)⟩
    · rename_i hleast
      split
      · rename_i h
        exact ⟨_, utf8Steps_of_char (utf8Step_of_lt_10000 rest hleast h)⟩
      · rename_i h
        exact ⟨_, utf8Steps_of_char (utf8Step_of_le rest h)⟩

/-! ## Whole texts -/

theorem decodeLenient_encode (s : String) : decodeLenient (encode s) = s := by
  have hchars (cs : List Char) :
      (utf8Steps 0 (cs.flatMap encodeChar)).map Utf8Step.shown = cs := by
    induction cs with
    | nil => rfl
    | cons c cs ih =>
        obtain ⟨width, hstep⟩ := utf8Steps_encodeChar c (cs.flatMap encodeChar)
        rw [List.flatMap_cons, hstep, List.map_cons, ih]
        rfl
  rw [decodeLenient, encode, hchars, String.ofList_toList]

end QueryClient.Text
