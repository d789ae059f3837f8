/-!
# Texts as bytes

A text becomes bytes in UTF-8. Reading bytes back is strict or lenient: a lenient reading puts one
replacement character for every maximal beginning of a sequence that goes wrong.
-/

namespace QueryClient.Text

/-! ## One character at a time -/

/-- How the reading of one character ends. -/
inductive Utf8Step where
  /-- A character of the given number of bytes. -/
  | char (c : Char) (width : Nat)
  /-- As many bytes that belong to no character. -/
  | broken (width : Nat)
deriving Repr

/-- Bytes that a step takes. -/
def Utf8Step.width : Utf8Step → Nat
  | .char _ width => width
  | .broken width => width

/-- The character of a step, with the replacement character for broken bytes. -/
def Utf8Step.shown : Utf8Step → Char
  | .char c _ => c
  | .broken _ => '\ufffd'

/-- The character of a step that is not broken. -/
def Utf8Step.char? : Utf8Step → Option Char
  | .char c _ => some c
  | .broken _ => none

/-- A byte that continues a sequence. -/
def isContinuation (b : UInt8) : Bool :=
  0x80 ≤ b && b ≤ 0xbf

/-- The six payload bits of a continuation byte. -/
def payload (b : UInt8) : Nat :=
  b.toNat % 64

/-- The least and the greatest second byte after a leading byte. -/
def secondByteBounds (leading : UInt8) : UInt8 × UInt8 :=
  if leading == 0xe0 then (0xa0, 0xbf)
  else if leading == 0xed then (0x80, 0x9f)
  else if leading == 0xf0 then (0x90, 0xbf)
  else if leading == 0xf4 then (0x80, 0x8f)
  else (0x80, 0xbf)

/-- Read what starts with a leading byte; a sequence that goes wrong is as long as its part that
could have begun a character. -/
def utf8Step (leading : UInt8) (rest : List UInt8) : Utf8Step :=
  let (least, greatest) := secondByteBounds leading
  if leading < 0x80 then .char (Char.ofNat leading.toNat) 1
  else if leading < 0xc2 || 0xf4 < leading then .broken 1
  else match rest with
    | [] => .broken 1
    | second :: rest =>
      if second < least || greatest < second then .broken 1
      else if leading < 0xe0 then
        .char (Char.ofNat ((leading.toNat - 0xc0) * 64 + payload second)) 2
      else match rest with
        | [] => .broken 2
        | third :: rest =>
          if !isContinuation third then .broken 2
          else if leading < 0xf0 then
            .char
              (Char.ofNat ((leading.toNat - 0xe0) * 4096 + payload second * 64 + payload third)) 3
          else match rest with
            | [] => .broken 3
            | fourth :: _ =>
              if !isContinuation fourth then .broken 3
              else .char (Char.ofNat ((leading.toNat - 0xf0) * 262144 + payload second * 4096
                + payload third * 64 + payload fourth)) 4

/-! ## Whole texts -/

/-- The steps of a whole list of bytes; `skip` bytes belong to the step before. -/
def utf8Steps (skip : Nat) : List UInt8 → List Utf8Step
  | [] => []
  | b :: rest =>
    match skip with
    | skip + 1 => utf8Steps skip rest
    | 0 =>
      let step := utf8Step b rest
      step :: utf8Steps (step.width - 1) rest

/-- The text of bytes, with a replacement character for what is not UTF-8. -/
def decodeLenient (bytes : List UInt8) : String :=
  String.ofList ((utf8Steps 0 bytes).map Utf8Step.shown)

/-- The text of bytes that are UTF-8 throughout. -/
def decodeStrict? (bytes : List UInt8) : Option String :=
  ((utf8Steps 0 bytes).mapM Utf8Step.char?).map String.ofList

/-- The bytes of one character. -/
def encodeChar (c : Char) : List UInt8 :=
  let n := c.toNat
  if n < 0x80 then [n.toUInt8]
  else if n < 0x800 then [(0xc0 + n / 64).toUInt8, (0x80 + n % 64).toUInt8]
  else if n < 0x10000 then
    [(0xe0 + n / 4096).toUInt8, (0x80 + n / 64 % 64).toUInt8, (0x80 + n % 64).toUInt8]
  else
    [(0xf0 + n / 262144).toUInt8, (0x80 + n / 4096 % 64).toUInt8, (0x80 + n / 64 % 64).toUInt8,
      (0x80 + n % 64).toUInt8]

def encode (s : String) : List UInt8 :=
  s.toList.flatMap encodeChar

end QueryClient.Text
