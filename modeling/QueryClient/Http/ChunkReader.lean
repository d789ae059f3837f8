import QueryClient.Text.Utf8

/-!
# Reading in chunks

Local data that are sent piece by piece. Text is counted in characters and sent in UTF-8.
-/

namespace QueryClient.Http

/-- Local data. -/
inductive Supply where
  | bytes (data : List UInt8)
  | characters (cs : List Char)
deriving Repr, DecidableEq

namespace Supply

/-- How many bytes or characters there are. -/
def size : Supply → Nat
  | bytes data => data.length
  | characters cs => cs.length

def data : Supply → List UInt8
  | bytes data => data
  | characters cs => Text.encode (String.ofList cs)

/-- The first `n` bytes or characters. -/
def take (n : Nat) : Supply → Supply
  | bytes data => bytes (data.take n)
  | characters cs => characters (cs.take n)

/-- What follows the first `n` bytes or characters. -/
def drop (n : Nat) : Supply → Supply
  | bytes data => bytes (data.drop n)
  | characters cs => characters (cs.drop n)

/-- How much is read when `n` is asked for: a negative number asks for everything. -/
def reach (n : Int) (s : Supply) : Nat :=
  if n < 0 then s.size else n.toNat

@[simp] theorem size_drop (n : Nat) (s : Supply) : (s.drop n).size = s.size - n := by
  cases s <;> simp [size, drop]

@[simp] theorem size_take (n : Nat) (s : Supply) : (s.take n).size = min n s.size := by
  cases s <;> simp [size, take]

theorem data_of_size_eq_zero {s : Supply} (h : s.size = 0) : s.data = [] := by
  cases s with
  | bytes data => simpa [size, Supply.data] using h
  | characters cs =>
    have : cs = [] := by simpa [size] using h
    subst this
    rfl

end Supply

/-- Data with a number of bytes or characters that is read when none is asked for. -/
structure ChunkReader where
  supply : Supply
  chunkSize : Int := 8192
deriving Repr, DecidableEq

/-- The number that counts: the one asked for unless it is missing or zero. -/
def askedOr (default : Int) : Option Int → Int
  | some n => if n = 0 then default else n
  | none => default

namespace ChunkReader

def read (asked : Option Int) (r : ChunkReader) : List UInt8 × ChunkReader :=
  let n := r.supply.reach (askedOr r.chunkSize asked)
  ((r.supply.take n).data, { r with supply := r.supply.drop n })

theorem size_read_lt {asked : Option Int} {r : ChunkReader} (h : (r.read asked).1 ≠ []) :
    (r.read asked).2.supply.size < r.supply.size := by
  simp only [read, ne_eq] at h ⊢
  rw [Supply.size_drop]
  have : (r.supply.take (r.supply.reach (askedOr r.chunkSize asked))).size ≠ 0 :=
    fun hz => h (Supply.data_of_size_eq_zero hz)
  rw [Supply.size_take] at this
  omega

end ChunkReader

end QueryClient.Http
