import Mathlib.Algebra.GroupWithZero.Nat
import QueryClient.Gzip.Compressor

/-!
# Members written piece by piece

A member can be written in pieces: its header in two, its data in any number, as a compressor gives
them out. Reading it gives the header, all data, and a trailer that is right for them.
-/

namespace QueryClient.Gzip

/-! ## Numbers in trailers -/

/-- The number that bytes spell, the least first. -/
def number : List UInt8 → Nat
  | [] => 0
  | b :: rest => b.toNat + 256 * number rest

theorem toNat_toUInt8_mod (n : Nat) : (n % 256).toUInt8.toNat = n % 256 :=
  Nat.mod_eq_of_lt (Nat.mod_lt n (by decide))

theorem number_fourBytes (n : Nat) : number (fourBytes n) = n % 2 ^ 32 := by
  simp only [fourBytes, number, toNat_toUInt8_mod]
  omega

theorem length_fourBytes (n : Nat) : (fourBytes n).length = 4 := rfl

/-! ## Members for data -/

/-- A member with the usual header, the data, and behind them their checksum and their length. -/
structure Member.IsOf (m : Member) (data : List UInt8) : Prop where
  header : m.header = headerStart ++ headerEnd
  whole : m.data = data
  check : number (m.trailer.take 4) = (checksum 0 data).toNat
  size : number (m.trailer.drop 4) = data.length % 2 ^ 32

theorem Member.isOf (data : List UInt8) :
    (Member.mk (headerStart ++ headerEnd) data (Gzip.trailer data)).IsOf data := by
  constructor
  · rfl
  · rfl
  · rw [Gzip.trailer, trailerOf, List.take_left' (length_fourBytes _), number_fourBytes]
    exact Nat.mod_eq_of_lt (checksum 0 data).toNat_lt
  · rw [Gzip.trailer, trailerOf, List.drop_left' (length_fourBytes _), number_fourBytes]

/-! ## Contents -/

namespace Content

/-- A stream that takes up a whole content is the one in front when something follows. -/
theorem takeStream_append {content : Content} {data : List UInt8}
    (h : takeStream content = some (data, [])) (rest : Content) :
    takeStream (content ++ rest) = some (data, rest) := by
  induction content generalizing data with
  | nil => cases h
  | cons span content ih =>
      cases span with
      | plain _ => cases h
      | ended => cases h; rfl
      | compressed front =>
          simp only [takeStream, Option.map_eq_some_iff, Prod.mk.injEq, Prod.exists] at h
          obtain ⟨more, _, hmore, rfl, rfl⟩ := h
          rw [List.cons_append, takeStream, ih hmore]
          rfl

/-- There are no plain bytes in front of a stream. -/
theorem takePlain_of_takeStream {content rest : Content} {data : List UInt8}
    (h : takeStream content = some (data, rest)) : takePlain content = ([], content) := by
  cases content with
  | nil => rfl
  | cons span content =>
      cases span with
      | plain _ => cases h
      | ended | compressed _ => rfl

theorem plain?_pieces (pieces : List (List UInt8)) :
    plain? (pieces.map .plain) = some pieces.flatten := by
  induction pieces with
  | nil => rfl
  | cons piece pieces ih =>
      simp only [List.map_cons, plain?, ih, Option.map_some, List.flatten_cons]

/-- The content stands for data: as they are, or as one member. -/
def Holds (compressed : Bool) (content : Content) (data : List UInt8) : Prop :=
  if compressed then ∃ m, member? content = some m ∧ m.IsOf data
  else content.plain? = some data

end Content

/-- Whatever a compressor is fed, all that it gives out is one compressed stream that holds it. -/
def Compressor.WritesStream {σ : Type} (c : Compressor σ) : Prop :=
  ∀ pieces, Content.takeStream (c.output pieces) = some (pieces.flatten, [])

namespace Compressor

theorem WritesStream.remembering {σ : Type} {c : Compressor σ} (h : c.WritesStream) :
    c.remembering.WritesStream := by
  intro pieces
  rw [remembering_output]
  exact h pieces

/-- The compressor that is one piece behind: it gives out each piece when the next one comes. -/
def trailing : Compressor (List UInt8) where
  start := []
  feed before data := (data, [.compressed before])
  finish before := stream before

theorem trailing_writesStream : trailing.WritesStream := by
  have hfrom (before : List UInt8) (pieces : List (List UInt8)) :
      Content.takeStream (trailing.outputFrom before pieces)
        = some (before ++ pieces.flatten, []) := by
    induction pieces generalizing before with
    | nil => rfl
    | cons data pieces ih =>
        have hnext : trailing.outputFrom before (data :: pieces)
            = .compressed before :: trailing.outputFrom data pieces := rfl
        rw [hnext, Content.takeStream, ih, List.flatten_cons]
        rfl
  exact hfrom []

end Compressor

/-- The header in two parts, a stream, and the trailer for its data are a member. -/
theorem holds_of_takeStream {stream : Content} {data : List UInt8}
    (h : Content.takeStream stream = some (data, [])) :
    Content.Holds true
      (.plain headerStart :: .plain headerEnd :: stream ++ [.plain (trailer data)]) data := by
  have hall := Content.takeStream_append h [.plain (trailer data)]
  have hheader : Content.takePlain
      (.plain headerStart :: .plain headerEnd :: stream ++ [.plain (trailer data)])
        = (headerStart ++ headerEnd, stream ++ [.plain (trailer data)]) := by
    simp only [List.cons_append, Content.takePlain, Content.takePlain_of_takeStream hall,
      List.append_nil]
  refine ⟨_, ?_, Member.isOf data⟩
  simp only [member?, hheader, hall, Content.takePlain]
  simp [headerStart, headerEnd]

end QueryClient.Gzip
