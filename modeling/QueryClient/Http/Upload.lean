import QueryClient.Gzip.Compressor
import QueryClient.Http.ChunkReader
import QueryClient.Http.Disruption

/-!
# Uploads

The data of a request that are read while it is sent: from a local stream, or handed out piece by
piece. Reading goes on until nothing more comes or a read fails. The data can be compressed on the
way.
-/

namespace QueryClient.Http

open Gzip (Compressor Content)

/-! ## Flows -/

/-- Pieces that are read one after the other. -/
structure Flow (α : Type) where
  pieces : List α := []
  /-- What breaks them off, if anything does. -/
  breakdown : Option Disruption := none
deriving Repr, DecidableEq

namespace Flow

variable {α β : Type}

/-- A flow with one more piece in front. -/
def cons (piece : α) (f : Flow α) : Flow α :=
  { f with pieces := piece :: f.pieces }

def map (convert : α → β) (f : Flow α) : Flow β :=
  ⟨f.pieces.map convert, f.breakdown⟩

end Flow

/-! ## Strategies -/

/-- What a read gives. -/
inductive Piece where
  | bytes (data : List UInt8)
  | text (s : String)
  /-- The read failed. -/
  | broken (reason : Disruption)
deriving Repr, DecidableEq

def Piece.data : Piece → List UInt8
  | bytes data => data
  | text s => Text.encode s
  | broken _ => []

/-- Nothing came: the data are at their end. -/
def Piece.isEnd : Piece → Bool
  | bytes data => data.isEmpty
  | text s => s.isEmpty
  | broken _ => false

/-- Where the data come from. -/
inductive Strategy where
  /-- A local stream, read in pieces of the size that is asked for. -/
  | reader (r : ChunkReader)
  /-- Pieces that are handed out one by one. -/
  | handed (pieces : List Piece)
deriving Repr, DecidableEq

namespace Strategy

def read (asked : Option Int) : Strategy → Piece × Strategy
  | reader r => (.bytes (r.read asked).1, .reader (r.read asked).2)
  | handed [] => (.bytes [], .handed [])
  | handed (p :: rest) => (p, .handed rest)

/-- A bound on the number of pieces to come. -/
def remaining : Strategy → Nat
  | reader r => r.supply.size
  | handed pieces => pieces.length

theorem remaining_read_lt {asked : Option Int} {s : Strategy} (h : (s.read asked).1.isEnd = false) :
    (s.read asked).2.remaining < s.remaining := by
  match s with
  | reader r => exact ChunkReader.size_read_lt (by simpa [read, Piece.isEnd] using h)
  | handed [] => simp [read, Piece.isEnd] at h
  | handed (p :: rest) => simp [read, remaining]

/-- All pieces up to the end, read with the given size. -/
def pieces (size : Int) (s : Strategy) : Flow (List UInt8) :=
  if _h : (s.read (some size)).1.isEnd then {}
  else
    match (s.read (some size)).1 with
    | .broken reason => { breakdown := some reason }
    | p => ((s.read (some size)).2.pieces size).cons p.data
termination_by s.remaining
decreasing_by exact remaining_read_lt (by simpa using _h)

end Strategy

/-! ## Compression on the way -/

/-- The size of a piece when none is asked for. -/
def defaultChunkSize : Int := 8192

/-- A strategy whose data go through a compressor. -/
structure GzipReader (σ : Type) where
  inner : Strategy
  state : σ
  finished : Bool := false

namespace GzipReader

variable {σ : Type}

/-- Read what the compressor gives out next. It may take several pieces until something is ready;
the compressor takes bytes only, and after the end of the data nothing comes. -/
def read (c : Compressor σ) (asked : Option Int) (r : GzipReader σ) :
    Except Disruption (Content × GzipReader σ) :=
  if r.finished then .ok ([], r)
  else
    let size := some (askedOr defaultChunkSize asked)
    if _h : (r.inner.read size).1.isEnd then
      .ok (c.finish r.state, { r with inner := (r.inner.read size).2, finished := true })
    else
      match (r.inner.read size).1 with
      | .broken reason => .error reason
      | .text _ => .error (.foreign .wrongKind)
      | .bytes data =>
        let (state, out) := c.feed r.state data
        let next := { r with inner := (r.inner.read size).2, state }
        if out.isEmpty then next.read c asked else .ok (out, next)
termination_by r.inner.remaining
decreasing_by exact Strategy.remaining_read_lt (by simpa using _h)

/-- A bound on the number of reads that give something. -/
def remaining (r : GzipReader σ) : Nat :=
  r.inner.remaining + if r.finished then 0 else 1

theorem remaining_read_lt {c : Compressor σ} {asked : Option Int} {r : GzipReader σ} {out : Content}
    {next : GzipReader σ} (h : r.read c asked = .ok (out, next)) (ho : out ≠ []) :
    next.remaining < r.remaining := by
  fun_induction read c asked r with
  | case1 r hf =>
    simp only [Except.ok.injEq, Prod.mk.injEq] at h
    exact absurd h.1.symm ho
  | case2 r hf size hend =>
    simp only [Except.ok.injEq, Prod.mk.injEq] at h
    obtain ⟨-, rfl⟩ := h
    have hle : (r.inner.read size).2.remaining ≤ r.inner.remaining := by
      cases hs : r.inner with
      | reader cr => simp [Strategy.read, Strategy.remaining, ChunkReader.read]
      | handed ps => cases ps <;> simp [Strategy.read, Strategy.remaining]
    simp only [remaining, hf]
    simp
    omega
  | case3 => cases h
  | case4 => cases h
  | case5 r hf size hend data hp state out' hfeed next' hempty ih =>
    have := ih h
    have hlt := Strategy.remaining_read_lt (by simpa using hend)
    simp only [remaining] at this ⊢
    simp only [next', hf] at this ⊢
    omega
  | case6 r hf size hend data hp state out' hfeed next' hempty =>
    simp only [Except.ok.injEq, Prod.mk.injEq] at h
    obtain ⟨-, rfl⟩ := h
    have hlt := Strategy.remaining_read_lt (by simpa using hend)
    simp only [remaining, next', hf]
    omega

/-- Everything that is given out, read with the given size. -/
def contents (c : Compressor σ) (size : Int) (r : GzipReader σ) : Flow Content :=
  match _h : r.read c (some size) with
  | .error reason => { breakdown := some reason }
  | .ok (out, next) =>
    if _ho : out = [] then {}
    else (next.contents c size).cons out
termination_by r.remaining
decreasing_by exact remaining_read_lt _h _ho

end GzipReader

/-! ## Uploads -/

structure Upload where
  strategy : Strategy
  gzip : Bool := false
deriving Repr, DecidableEq

/-- What is sent, piece by piece, when it is read with the given size. -/
def Upload.contents (size : Int) (u : Upload) : Flow Content :=
  if u.gzip then
    let c := Compressor.patient Gzip.member
    GzipReader.contents c size { inner := u.strategy, state := c.start }
  else (u.strategy.pieces size).map fun data => [.plain data]

end QueryClient.Http
