import QueryClient.Gzip.Checksum

/-!
# Contents with compressed parts

What is written to a file or sent, in spans: bytes as they are, and parts of compressed streams. The
compressed form itself is left open; it stands for the bytes that it gives back. A compressed stream
gives back its data only when it has been ended. A gzip member is a header, one compressed stream,
and a trailer with the checksum and the length of the data.
-/

namespace QueryClient.Gzip

inductive Span where
  | plain (data : List UInt8)
  /-- Data within a compressed stream. -/
  | compressed (data : List UInt8)
  /-- The end of a compressed stream. -/
  | ended
deriving Repr, DecidableEq

/-- Spans one after the other. -/
abbrev Content := List Span

namespace Content

/-- The bytes of a content without compressed parts. -/
def plain? : Content → Option (List UInt8)
  | [] => some []
  | .plain data :: rest => (plain? rest).map (data ++ ·)
  | .compressed _ :: _ | .ended :: _ => none

/-- The plain bytes in front, and the rest. -/
def takePlain : Content → List UInt8 × Content
  | .plain data :: rest =>
    let (more, rest) := takePlain rest
    (data ++ more, rest)
  | rest => ([], rest)

/-- The data of the compressed stream in front, and the rest; none if the stream does not end. -/
def takeStream : Content → Option (List UInt8 × Content)
  | .compressed data :: rest => (takeStream rest).map fun (more, rest) => (data ++ more, rest)
  | .ended :: rest => some ([], rest)
  | _ => none

/-- What a file holds after it was written to from its start: the end of a longer old content stays.
How long compressed parts are is left open; none of the old content is kept beside them. -/
def overwriting (content old : Content) : Content :=
  match content.plain?, old.plain? with
  | some data, some there =>
    if there.length ≤ data.length then content else content ++ [.plain (there.drop data.length)]
  | _, _ => content

@[simp] theorem overwriting_nil (content : Content) : content.overwriting [] = content := by
  unfold overwriting
  cases content.plain? <;> simp [plain?]

end Content

/-! ## Members -/

/-- The header up to where the extra flags begin: the mark of the format, the method, no flags and
no time. -/
def headerStart : List UInt8 :=
  [0x1f, 0x8b, 0x08, 0, 0, 0, 0, 0]

/-- The end of the header: no extra flags, an unknown system. -/
def headerEnd : List UInt8 :=
  [0x00, 0xff]

/-- The trailer of a member with the given checksum and length. -/
def trailerOf (check : UInt32) (size : Nat) : List UInt8 :=
  fourBytes check.toNat ++ fourBytes size

def trailer (data : List UInt8) : List UInt8 :=
  trailerOf (checksum 0 data) data.length

/-- Data as one compressed stream. -/
def stream (data : List UInt8) : Content :=
  [.compressed data, .ended]

def member (data : List UInt8) : Content :=
  .plain (headerStart ++ headerEnd) :: stream data ++ [.plain (trailer data)]

/-- A member taken apart. -/
structure Member where
  header : List UInt8
  data : List UInt8
  trailer : List UInt8
deriving Repr, DecidableEq

/-- The parts of a content that is one member with the right trailer. -/
def member? (content : Content) : Option Member :=
  let (header, rest) := Content.takePlain content
  match Content.takeStream rest with
  | none => none
  | some (data, rest) =>
    let (found, rest) := Content.takePlain rest
    if rest.isEmpty && header.length == 10 && header.take 3 == headerStart.take 3
        && found == trailer data then
      some ⟨header, data, found⟩
    else none

end QueryClient.Gzip
