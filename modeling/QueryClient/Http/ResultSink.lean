import QueryClient.Gzip.Compressor

/-!
# Result sinks

An open file that takes the body of a response piece by piece. When it is compressed, the file was
begun with the start of a gzip header; the sink completes the header once, before any data. A
compressor gives out the compressed data whenever it likes; what it still holds is written when the
sink is closed, and the trailer after it.
-/

namespace QueryClient.Http

open Gzip (Compressor Content)

/-- An open file for a body. -/
structure ResultSink where
  /-- Where the file stood when it was opened. -/
  place : List String := []
  /-- The number of the file. -/
  number : Nat := 0
  gzip : Bool := false
  /-- What has been written so far. -/
  content : Content := []
  headerDone : Bool := false
  closed : Bool := false
  /-- The checksum of the data so far. -/
  check : UInt32 := 0
  /-- The length of the data so far. -/
  size : Nat := 0
  /-- What compresses the data of a compressed file. -/
  deflater : Compressor (List (List UInt8)) := .remembering (.patient Gzip.stream)
  /-- What the compressor was fed so far. -/
  fed : List (List UInt8) := []

namespace ResultSink

/-- A sink for a file that has just been opened. -/
def begin (place : List String) (gzip : Bool) (deflater : Compressor (List (List UInt8))) :
    ResultSink :=
  { place, gzip, deflater
    fed := deflater.start
    content := if gzip then [.plain Gzip.headerStart] else [] }

/-- Complete the header, unless that has been done. -/
def finishHeader (s : ResultSink) : ResultSink :=
  if s.headerDone then s
  else { s with content := s.content ++ [.plain Gzip.headerEnd], headerDone := true }

/-- Take a piece. -/
def append (s : ResultSink) (chunk : List UInt8) : ResultSink :=
  if s.gzip then
    let s := s.finishHeader
    let (fed, out) := s.deflater.feed s.fed chunk
    { s with
      fed
      content := s.content ++ out
      check := Gzip.checksum s.check chunk
      size := s.size + chunk.length }
  else { s with content := s.content ++ [.plain chunk] }

/-- Take a piece and tell its length. -/
def write (s : ResultSink) (chunk : List UInt8) : ResultSink × Nat :=
  (s.append chunk, chunk.length)

/-- Close the file; closing it again does nothing. -/
def close (s : ResultSink) : ResultSink :=
  if s.closed then s
  else if s.gzip then
    let s := s.finishHeader
    { s with
      content := s.content ++ s.deflater.finish s.fed ++ [.plain (Gzip.trailerOf s.check s.size)]
      closed := true }
  else { s with closed := true }

@[simp] theorem close_close (s : ResultSink) : s.close.close = s.close := by
  simp only [close]
  split <;> simp_all
  split <;> simp

end ResultSink

end QueryClient.Http
