import QueryClient.Http.ResultSink
import QueryClient.Proofs.Gzip.Member

/-!
# What a closed sink holds

A sink that takes pieces and is then closed holds the pieces as they are, or one gzip member around
them. It makes no difference when the header is completed: with the first piece or on closing.
-/

namespace QueryClient.Http.ResultSink

open Gzip (Compressor Content)

variable {s : ResultSink}

/-! ## Plain sinks -/

theorem foldl_append_plain (h : s.gzip = false) (pieces : List (List UInt8)) :
    pieces.foldl append s = { s with content := s.content ++ pieces.map .plain } := by
  induction pieces generalizing s with
  | nil => simp only [List.foldl_nil, List.map_nil, List.append_nil]
  | cons piece pieces ih =>
      have hpiece : s.append piece = { s with content := s.content ++ [.plain piece] } := by
        simp [append, h]
      rw [List.foldl_cons, hpiece, ih (by exact h)]
      simp only [List.map_cons, List.append_assoc, List.singleton_append]

/-! ## Compressing sinks -/

theorem finishHeader_of_headerDone (h : s.headerDone = true) : s.finishHeader = s := by
  rw [finishHeader, if_pos h]

theorem headerDone_finishHeader (s : ResultSink) : s.finishHeader.headerDone = true := by
  unfold finishHeader
  split
  · assumption
  · rfl

theorem gzip_finishHeader (s : ResultSink) : s.finishHeader.gzip = s.gzip := by
  unfold finishHeader
  split <;> rfl

theorem closed_finishHeader (s : ResultSink) : s.finishHeader.closed = s.closed := by
  unfold finishHeader
  split <;> rfl

/-- The header is completed before a piece in any case. -/
theorem append_finishHeader (h : s.gzip = true) (piece : List UInt8) :
    s.finishHeader.append piece = s.append piece := by
  simp only [append, gzip_finishHeader, h, ↓reduceIte,
    finishHeader_of_headerDone (headerDone_finishHeader s)]

/-- The header is completed before the trailer in any case. -/
theorem close_finishHeader (h : s.gzip = true) (hopen : s.closed = false) :
    s.finishHeader.close = s.close := by
  simp only [close, closed_finishHeader, gzip_finishHeader, h, hopen, Bool.false_eq_true, ↓reduceIte,
    finishHeader_of_headerDone (headerDone_finishHeader s)]

theorem close_foldl_finishHeader (h : s.gzip = true) (hopen : s.closed = false)
    (pieces : List (List UInt8)) :
    (pieces.foldl append s.finishHeader).close = (pieces.foldl append s).close := by
  cases pieces with
  | nil => exact close_finishHeader h hopen
  | cons piece pieces => rw [List.foldl_cons, append_finishHeader h, List.foldl_cons]

/-- Behind the header stands all that the compressor gives out, also what it held back to the end. -/
theorem content_close_gzip (h : s.gzip = true) (hopen : s.closed = false)
    (hdone : s.headerDone = true) (pieces : List (List UInt8)) :
    (pieces.foldl append s).close.content
      = s.content ++ s.deflater.outputFrom s.fed pieces
        ++ [.plain (Gzip.trailerOf (Gzip.checksum s.check pieces.flatten)
            (s.size + pieces.flatten.length))] := by
  induction pieces generalizing s with
  | nil =>
      simp only [List.foldl_nil, close, hopen, h, finishHeader_of_headerDone hdone,
        Bool.false_eq_true, ↓reduceIte, Compressor.outputFrom, List.flatten_nil, Gzip.checksum_nil,
        List.length_nil, Nat.add_zero]
  | cons piece pieces ih =>
      have hpiece : s.append piece = { s with
          fed := (s.deflater.feed s.fed piece).1
          content := s.content ++ (s.deflater.feed s.fed piece).2
          check := Gzip.checksum s.check piece
          size := s.size + piece.length } := by
        simp only [append, h, finishHeader_of_headerDone hdone, ↓reduceIte]
      rw [List.foldl_cons, hpiece, ih (by exact h) (by exact hopen) (by exact hdone)]
      simp only [Compressor.outputFrom, List.flatten_cons, Gzip.checksum_append,
        List.length_append, List.append_assoc, Nat.add_assoc]

/-! ## Closed sinks -/

theorem content_close_plain (h : s.gzip = false) (hopen : s.closed = false) (hnew : s.content = [])
    (pieces : List (List UInt8)) : (pieces.foldl append s).close.content = pieces.map .plain := by
  rw [foldl_append_plain h]
  simp only [close, h, hopen, hnew, Bool.false_eq_true, ↓reduceIte, List.nil_append]

theorem content_close_begin (place : List String) (number : Nat)
    (deflater : Compressor (List (List UInt8))) (pieces : List (List UInt8)) :
    (pieces.foldl append { begin place true deflater with number }).close.content
      = .plain Gzip.headerStart :: .plain Gzip.headerEnd :: deflater.output pieces
        ++ [.plain (Gzip.trailer pieces.flatten)] := by
  rw [← close_foldl_finishHeader rfl rfl, content_close_gzip rfl rfl rfl]
  simp only [finishHeader, begin, Gzip.trailer, Compressor.output, Nat.zero_add,
    Bool.false_eq_true, ↓reduceIte, List.cons_append, List.nil_append]

/-- A closed sink holds what it took. -/
theorem holds_close {deflater : Compressor (List (List UInt8))} (hdeflater : deflater.WritesStream)
    (place : List String) (gzip : Bool) (number : Nat) (pieces : List (List UInt8)) :
    (pieces.foldl append { begin place gzip deflater with number }).close.content.Holds gzip
      pieces.flatten := by
  cases gzip with
  | false =>
      rw [content_close_plain rfl rfl rfl, Content.Holds, if_neg Bool.false_ne_true]
      exact Content.plain?_pieces pieces
  | true =>
      rw [content_close_begin]
      exact Gzip.holds_of_takeStream (hdeflater pieces)

/-- The file that is written to, by its place and its number. -/
def target (s : ResultSink) : List String × Nat :=
  (s.place, s.number)

theorem target_finishHeader (s : ResultSink) : s.finishHeader.target = s.target := by
  unfold finishHeader
  split <;> rfl

theorem target_append (s : ResultSink) (piece : List UInt8) : (s.append piece).target = s.target := by
  unfold append
  split
  · exact target_finishHeader s
  · rfl

theorem target_foldl_append (pieces : List (List UInt8)) (s : ResultSink) :
    (pieces.foldl append s).target = s.target := by
  induction pieces generalizing s with
  | nil => rfl
  | cons piece pieces ih => rw [List.foldl_cons, ih, target_append]

theorem target_close (s : ResultSink) : s.close.target = s.target := by
  unfold close
  split
  · rfl
  · split
    · exact target_finishHeader s
    · rfl

theorem closed_close (s : ResultSink) : s.close.closed = true := by
  unfold close
  split
  · assumption
  · split <;> rfl

end QueryClient.Http.ResultSink
