import QueryClient.Http.Stream
import QueryClient.Proofs.Gzip.Member

/-!
# The data of an upload

A strategy yields pieces up to its first empty result. Sent as they are, their bytes follow one
another. Sent through a compressor, which takes bytes only, they come out as one member that holds
the same bytes, and nothing follows it; a piece of text makes the upload fail.
-/

namespace QueryClient.Gzip

/-- Whatever a compressor is fed, all that it gives out is one member that holds it. -/
def Compressor.WritesMember {σ : Type} (c : Compressor σ) : Prop :=
  ∀ pieces, (c.output pieces).Holds true pieces.flatten

theorem member_holds (data : List UInt8) : (member data).Holds true data := by
  refine ⟨_, ?_, Member.isOf data⟩
  simp [member?, member, stream, Content.takePlain, Content.takeStream, headerStart, headerEnd]

namespace Compressor

theorem patient_writesMember : (patient member).WritesMember := by
  intro pieces
  rw [patient_output]
  exact member_holds _

/-- The compressor that gives out the header with the first data and keeps the rest to the end. -/
def prompt : Compressor (Option (List UInt8)) where
  start := none
  feed
    | none, data => (some data, (member []).take 1)
    | some before, data => (some (before ++ data), [])
  finish
    | none => member []
    | some before => (member before).drop 1

theorem prompt_outputFrom (before : List UInt8) (pieces : List (List UInt8)) :
    prompt.outputFrom (some before) pieces = (member (before ++ pieces.flatten)).drop 1 := by
  induction pieces generalizing before with
  | nil => simp only [List.flatten_nil, List.append_nil]; rfl
  | cons data rest ih =>
      rw [List.flatten_cons, ← List.append_assoc, ← ih]
      rfl

theorem prompt_writesMember : prompt.WritesMember := by
  intro pieces
  cases pieces with
  | nil => exact member_holds []
  | cons data rest =>
      have hwhole : prompt.output (data :: rest) = member (data ++ rest.flatten) := by
        rw [output, outputFrom]
        exact congrArg ((member []).take 1 ++ ·) (prompt_outputFrom data rest)
      rw [hwhole]
      exact member_holds _

end Compressor

end QueryClient.Gzip

namespace QueryClient.Http

open Gzip (Compressor Content)

/-! ## What a strategy yields -/

def Piece.isBytes : Piece → Bool
  | bytes _ => true
  | text _ | broken _ => false

def Piece.isBroken : Piece → Bool
  | broken _ => true
  | bytes _ | text _ => false

namespace Strategy

/-- What a strategy yields, read with a size: pieces that are neither empty nor failures, up to its
first empty result. -/
inductive Yields (size : Int) : Strategy → List Piece → Prop where
  | ended {s : Strategy} (h : (s.read (some size)).1.isEnd = true) : Yields size s []
  | more {s : Strategy} {ps : List Piece} (hfilled : (s.read (some size)).1.isEnd = false)
      (hwhole : (s.read (some size)).1.isBroken = false)
      (h : Yields size (s.read (some size)).2 ps) : Yields size s ((s.read (some size)).1 :: ps)

/-- A strategy as it is given to an upload: a local stream that is read in pieces of the usual size
when none is asked for, or the caller's own. -/
def IsUsual : Strategy → Prop
  | reader r => r.chunkSize = defaultChunkSize
  | handed _ => True

theorem IsUsual.read {s : Strategy} (h : s.IsUsual) (asked : Option Int) :
    (s.read asked).2.IsUsual := by
  match s with
  | reader r => exact h
  | handed [] | handed (p :: rest) => trivial

/-- It makes no difference whether the usual size is asked for or left open. -/
theorem IsUsual.read_askedOr {s : Strategy} (h : s.IsUsual) (size : Int) :
    s.read (some (askedOr defaultChunkSize (some size))) = s.read (some size) := by
  match s with
  | handed [] | handed (p :: rest) => rfl
  | reader r =>
      have hchunk : r.chunkSize = defaultChunkSize := h
      have hsize : askedOr r.chunkSize (some (askedOr defaultChunkSize (some size)))
          = askedOr r.chunkSize (some size) := by
        by_cases hzero : size = 0 <;> simp [askedOr, hzero, hchunk, defaultChunkSize]
      simp only [Strategy.read, ChunkReader.read, hsize]

theorem IsUsual.yields_askedOr {s : Strategy} {size : Int} {ps : List Piece} (h : s.IsUsual)
    (hyields : s.Yields size ps) : s.Yields (askedOr defaultChunkSize (some size)) ps := by
  induction hyields with
  | ended hend => exact .ended (by rwa [h.read_askedOr])
  | more hfilled hwhole _ ih =>
      have hrest := ih (h.read _)
      rw [← h.read_askedOr] at hfilled hwhole hrest ⊢
      exact .more hfilled hwhole hrest

end Strategy

/-! ## Flows -/

/-- All pieces of a flow in one, unless it breaks off. -/
def Flow.whole {α : Type} (f : Flow (List α)) : Except Disruption (List α) :=
  match f.breakdown with
  | none => .ok f.pieces.flatten
  | some reason => .error reason

theorem Flow.whole_cons {α : Type} (piece : List α) (f : Flow (List α)) :
    (f.cons piece).whole = f.whole.map (piece ++ ·) := by
  rcases f with ⟨pieces, _ | reason⟩ <;> rfl

/-! ## Plain uploads -/

theorem Strategy.pieces_of_yields {s : Strategy} {size : Int} {ps : List Piece}
    (h : s.Yields size ps) : s.pieces size = { pieces := ps.map Piece.data } := by
  induction h with
  | ended hend => rw [pieces, dif_pos hend]; rfl
  | @more s ps hfilled hwhole _ ih =>
      rw [pieces, dif_neg (by simp [hfilled]), ih]
      cases hp : (s.read (some size)).1 with
      | bytes data => rfl
      | text t => rfl
      | broken reason => rw [hp] at hwhole; cases hwhole

/-! ## Uploads through a compressor -/

section Compressed

variable {σ : Type} (c : Compressor σ)

/-- What comes out of a compressor that is fed pieces from a state on. It takes bytes only. -/
def compressed : σ → List Piece → Except Disruption Content
  | state, [] => .ok (c.finish state)
  | state, .bytes data :: ps => do
    return (c.feed state data).2 ++ (← compressed (c.feed state data).1 ps)
  | _, _ :: _ => .error (.foreign .wrongKind)

theorem compressed_of_bytes {ps : List Piece} (h : ∀ p ∈ ps, p.isBytes = true) (state : σ) :
    compressed c state ps = .ok (c.outputFrom state (ps.map Piece.data)) := by
  induction ps generalizing state with
  | nil => rfl
  | cons p ps ih =>
      cases p with
      | bytes data =>
          rw [compressed, ih (fun p hp => h p (List.mem_cons_of_mem _ hp))]
          rfl
      | text t => cases h _ List.mem_cons_self
      | broken reason => cases h _ List.mem_cons_self

theorem compressed_of_not_bytes {ps : List Piece} (h : ¬∀ p ∈ ps, p.isBytes = true) (state : σ) :
    compressed c state ps = .error (.foreign .wrongKind) := by
  induction ps generalizing state with
  | nil => exact absurd (fun p hp => by cases hp) h
  | cons p ps ih =>
      cases p with
      | bytes data =>
          have hrest : ¬∀ p ∈ ps, p.isBytes = true :=
            fun hps => h (List.forall_mem_cons.mpr ⟨rfl, hps⟩)
          rw [compressed, ih hrest]
          rfl
      | text t => rfl
      | broken reason => rfl

/-- A reader over a strategy, with a compressor in a state. -/
def GzipReader.reading (s : Strategy) (state : σ) : GzipReader σ :=
  { inner := s, state }

namespace GzipReader

variable {c} {s : Strategy} {state : σ} {size : Int} {r r' next : GzipReader σ} {out : Content}

theorem read_of_end
    (h : (s.read (some (askedOr defaultChunkSize (some size)))).1.isEnd = true) :
    (reading s state).read c (some size) = .ok (c.finish state,
      { reading (s.read (some (askedOr defaultChunkSize (some size)))).2 state with
        finished := true }) := by
  unfold reading
  rw [read, if_neg (by simp), dif_pos h]

theorem read_of_text {t : String}
    (h : (s.read (some (askedOr defaultChunkSize (some size)))).1 = .text t)
    (hfilled : (Piece.text t).isEnd = false) :
    (reading s state).read c (some size) = .error (.foreign .wrongKind) := by
  rw [reading, read, if_neg (by simp), dif_neg (by simp [h, hfilled])]
  simp only [h]

/-- What is ready is given out; when nothing is, the next piece is taken at once. -/
theorem read_of_bytes {data : List UInt8}
    (h : (s.read (some (askedOr defaultChunkSize (some size)))).1 = .bytes data)
    (hfilled : (Piece.bytes data).isEnd = false)
    (hnext : reading (s.read (some (askedOr defaultChunkSize (some size)))).2 (c.feed state data).1
      = next) :
    (reading s state).read c (some size)
      = if (c.feed state data).2 = [] then next.read c (some size)
        else .ok ((c.feed state data).2, next) := by
  subst hnext
  unfold reading
  rw [read, if_neg (by simp), dif_neg (by simp [h, hfilled])]
  simp only [h, List.isEmpty_iff]

/-! ### All reads -/

theorem contents_of_error {reason : Disruption} (h : r.read c (some size) = .error reason) :
    r.contents c size = { breakdown := some reason } := by
  rw [contents]
  split
  · rename_i heq
    rw [h] at heq
    cases heq
    rfl
  · rename_i heq
    rw [h] at heq
    cases heq

theorem contents_of_ok (h : r.read c (some size) = .ok (out, next)) :
    r.contents c size = if out = [] then {} else (next.contents c size).cons out := by
  rw [contents]
  split
  · rename_i heq
    rw [h] at heq
    cases heq
  · rename_i heq
    rw [h] at heq
    cases heq
    rfl

/-- Readers that give the same next give the same from then on. -/
theorem contents_congr (h : r.read c (some size) = r'.read c (some size)) :
    r.contents c size = r'.contents c size := by
  cases hread : r'.read c (some size) with
  | error reason => rw [contents_of_error (h.trans hread), contents_of_error hread]
  | ok given => rw [contents_of_ok (h.trans hread), contents_of_ok hread]

/-- Once the end was given out, nothing more comes. -/
theorem contents_of_finished (h : r.finished = true) : r.contents c size = {} := by
  have hread : r.read c (some size) = .ok ([], r) := by rw [read, if_pos h]
  rw [contents_of_ok hread, if_pos rfl]

/-- All that is given out for what a strategy yields is what the compressor makes of it. -/
theorem contents_of_yields {ps : List Piece}
    (h : s.Yields (askedOr defaultChunkSize (some size)) ps) (state : σ) :
    ((reading s state).contents c size).whole = compressed c state ps := by
  induction h generalizing state with
  | ended hend =>
      rw [contents_of_ok (read_of_end hend), contents_of_finished rfl, compressed]
      by_cases hout : c.finish state = []
      · rw [if_pos hout, hout]
        rfl
      · rw [if_neg hout, Flow.whole_cons]
        simp [Flow.whole, Except.map]
  | @more s ps hfilled hwhole _ ih =>
      cases hp : (s.read (some (askedOr defaultChunkSize (some size)))).1 with
      | broken reason =>
          rw [hp] at hwhole
          cases hwhole
      | text t =>
          rw [contents_of_error (read_of_text hp (hp ▸ hfilled))]
          rfl
      | bytes data =>
          have hread : (reading s state).read c (some size) = _ :=
            read_of_bytes hp (hp ▸ hfilled) rfl
          rw [compressed, ← ih (c.feed state data).1]
          by_cases hout : (c.feed state data).2 = []
          · -- Nothing is ready yet, and reading goes on.
            rw [if_pos hout] at hread
            rw [contents_congr hread, hout]
            cases Flow.whole (contents c size _) <;> rfl
          · rw [if_neg hout] at hread
            rw [contents_of_ok hread, if_neg hout, Flow.whole_cons]
            cases Flow.whole (contents c size _) <;> rfl

end GzipReader

end Compressed

/-! ## Local streams -/

theorem Supply.data_take_append_drop (n : Nat) (s : Supply) :
    (s.take n).data ++ (s.drop n).data = s.data := by
  cases s with
  | bytes data => exact List.take_append_drop n data
  | characters cs =>
      simp only [take, drop, data, Text.encode, String.toList_ofList, ← List.flatMap_append,
        List.take_append_drop]

theorem Supply.size_eq_zero {s : Supply} (h : s.data = []) : s.size = 0 := by
  cases s with
  | bytes data => exact congrArg List.length h
  | characters cs =>
      cases cs with
      | nil => rfl
      | cons c cs =>
          have hchar : Text.encodeChar c ≠ [] := by
            unfold Text.encodeChar
            grind
          simp only [data, Text.encode, String.toList_ofList, List.flatMap_cons,
            List.append_eq_nil_iff, hchar, false_and] at h

/-- Nothing is read only when nothing is left. -/
theorem ChunkReader.data_of_read_eq_nil {r : ChunkReader} (hchunk : r.chunkSize ≠ 0) {size : Int}
    (h : (r.read (some size)).1 = []) : r.supply.data = [] := by
  have hsize := Supply.size_eq_zero h
  rw [Supply.size_take] at hsize
  have hasked : askedOr r.chunkSize (some size) ≠ 0 := by
    simp only [askedOr]
    split <;> assumption
  have hreach : r.supply.reach (askedOr r.chunkSize (some size)) = 0 → r.supply.size = 0 := by
    unfold Supply.reach
    split <;> omega
  exact Supply.data_of_size_eq_zero (by omega)

namespace Strategy

/-- A local stream yields bytes, and all it holds. -/
theorem exists_yields_reader (r : ChunkReader) (hchunk : r.chunkSize ≠ 0) (size : Int) :
    ∃ ps, (reader r).Yields size ps ∧ (∀ p ∈ ps, p.isBytes = true)
      ∧ ps.flatMap Piece.data = r.supply.data := by
  by_cases hend : (r.read (some size)).1 = []
  · refine ⟨[], .ended (by simp [Strategy.read, Piece.isEnd, hend]), by simp, ?_⟩
    rw [ChunkReader.data_of_read_eq_nil hchunk hend]
    rfl
  · obtain ⟨ps, hyields, hbytes, hdata⟩ :=
      exists_yields_reader (r.read (some size)).2 hchunk size
    refine ⟨.bytes (r.read (some size)).1 :: ps, .more ?_ rfl hyields, ?_, ?_⟩
    · simpa [Strategy.read, Piece.isEnd] using hend
    · exact List.forall_mem_cons.mpr ⟨rfl, hbytes⟩
    · rw [List.flatMap_cons, hdata]
      exact Supply.data_take_append_drop _ r.supply
termination_by r.supply.size
decreasing_by exact ChunkReader.size_read_lt hend

/-- There is only one way in which a strategy yields. -/
theorem Yields.unique {s : Strategy} {size : Int} {ps ps' : List Piece} (h : s.Yields size ps)
    (h' : s.Yields size ps') : ps = ps' := by
  induction h generalizing ps' with
  | ended hend =>
      cases h' with
      | ended => rfl
      | more hfilled => rw [hend] at hfilled; cases hfilled
  | more hfilled _ _ ih =>
      cases h' with
      | ended hend => rw [hend] at hfilled; cases hfilled
      | more _ _ h' => rw [ih h']

theorem Yields.of_reader {r : ChunkReader} (hchunk : r.chunkSize ≠ 0) {size : Int}
    {ps : List Piece} (h : (reader r).Yields size ps) :
    (∀ p ∈ ps, p.isBytes = true) ∧ ps.flatMap Piece.data = r.supply.data := by
  obtain ⟨ps', h', hbytes⟩ := exists_yields_reader r hchunk size
  rwa [h.unique h']

end Strategy

/-! ## Uploads -/

namespace Upload

/-- What is sent through a compressor, piece by piece, when it is read with the given size. -/
def through {σ : Type} (c : Compressor σ) (size : Int) (u : Upload) : Flow Content :=
  if u.gzip then (GzipReader.reading u.strategy c.start).contents c size
  else (u.strategy.pieces size).map fun data => [.plain data]

theorem contents_eq_through (size : Int) (u : Upload) :
    u.contents size = u.through (.patient Gzip.member) size := rfl

/-- All that is sent, in one. -/
def body {σ : Type} (c : Compressor σ) (size : Int) (u : Upload) : Except Disruption Content :=
  (u.through c size).whole

variable {σ : Type} {c : Compressor σ} {s : Strategy} {size : Int} {ps : List Piece}

theorem through_plain (h : s.Yields size ps) :
    through c size { strategy := s }
      = { pieces := (ps.map Piece.data).map fun data => [.plain data] } := by
  rw [through, if_neg Bool.false_ne_true, Strategy.pieces_of_yields h]
  rfl

theorem body_plain (h : s.Yields size ps) :
    body c size { strategy := s } = .ok ((ps.map Piece.data).map .plain) := by
  rw [body, through_plain h]
  simp only [Flow.whole]
  rw [← List.flatMap_def, ← List.map_eq_flatMap]

theorem body_gzip (hs : s.IsUsual) (h : s.Yields size ps) :
    body c size { strategy := s, gzip := true } = compressed c c.start ps := by
  rw [body, through, if_pos rfl]
  exact GzipReader.contents_of_yields (hs.yields_askedOr h) c.start

/-- An upload carries what its strategy yields, each text in UTF-8: as it is, or as one member. A
compressor refuses text, so a compressed upload fails unless all that is yielded are bytes, as from
a local stream they always are. -/
theorem body_carries (hc : c.WritesMember) (hs : s.IsUsual) (h : s.Yields size ps) :
    (∃ content, body c size { strategy := s } = .ok content
        ∧ content.Holds false (ps.flatMap Piece.data))
      ∧ ((∀ p ∈ ps, p.isBytes = true) → ∃ content,
          body c size { strategy := s, gzip := true } = .ok content
            ∧ content.Holds true (ps.flatMap Piece.data))
      ∧ ((∃ p ∈ ps, p.isBytes = false) →
          body c size { strategy := s, gzip := true } = .error (.foreign .wrongKind))
      ∧ ∀ r, s = .reader r →
          (∀ p ∈ ps, p.isBytes = true) ∧ ps.flatMap Piece.data = r.supply.data := by
  refine ⟨⟨_, body_plain h, ?_⟩, fun hbytes => ?_, fun htext => ?_, ?_⟩
  · rw [List.flatMap_def]
    exact Content.plain?_pieces _
  · rw [body_gzip hs h, compressed_of_bytes c hbytes, List.flatMap_def]
    exact ⟨_, rfl, hc _⟩
  · rw [body_gzip hs h]
    exact compressed_of_not_bytes c (by simpa using htext) _
  · rintro r rfl
    have hchunk : r.chunkSize = defaultChunkSize := hs
    exact h.of_reader (by rw [hchunk]; decide)

theorem body_carries_handed :
    let bytes : Strategy := .handed [.bytes [97], .bytes [98], .bytes [], .bytes [99]]
    let text : Strategy := .handed [.bytes [97], .text "é"]
    Compressor.prompt.WritesMember
      ∧ (bytes.IsUsual ∧ bytes.Yields 8192 [.bytes [97], .bytes [98]])
      ∧ (text.IsUsual ∧ text.Yields 8192 [.bytes [97], .text "é"])
      ∧ (∃ content, body .prompt 8192 { strategy := bytes, gzip := true } = .ok content
          ∧ content.Holds true [97, 98])
      ∧ (∃ content : Content, (contents 8192 { strategy := bytes, gzip := true }).whole = .ok content
          ∧ content.Holds true [97, 98])
      ∧ (∃ content, body .prompt 8192 { strategy := text } = .ok content
          ∧ content.Holds false [97, 195, 169])
      ∧ body .prompt 8192 { strategy := text, gzip := true } = .error (.foreign .wrongKind) := by
  intro bytes text
  have hbytes : bytes.Yields 8192 [.bytes [97], .bytes [98]] :=
    .more rfl rfl (.more rfl rfl (.ended rfl))
  have htext : text.Yields 8192 [.bytes [97], .text "é"] :=
    .more rfl rfl (.more (by decide) rfl (.ended rfl))
  have hutf : [Piece.bytes [97], .text "é"].flatMap Piece.data = [97, 195, 169] := by decide
  have hc := Compressor.prompt_writesMember
  have hfrombytes := body_carries hc (s := bytes) trivial hbytes
  have hfromtext := body_carries hc (s := text) trivial htext
  have hsent := body_carries Compressor.patient_writesMember (s := bytes) trivial hbytes
  exact ⟨hc, ⟨trivial, hbytes⟩, ⟨trivial, htext⟩, hfrombytes.2.1 (by decide),
    hsent.2.1 (by decide), hutf ▸ hfromtext.1, hfromtext.2.2.1 ⟨.text "é", by simp, rfl⟩⟩

/-- What is sent plain can be refused by the compressor, and breaks off the upload. -/
theorem text_refused :
    let s : Stream := { kind := .upload, own := some [.text "ab"] }
    s.upload.strategy.Yields 8192 [.text "ab"]
      ∧ s.upload.contents 8192 = { pieces := [[.plain [97, 98]]] }
      ∧ s.applyGzip.upload.contents 8192 = { breakdown := some (.foreign .wrongKind) } := by
  intro s
  have hyields : s.upload.strategy.Yields 8192 [.text "ab"] :=
    .more (by decide) rfl (.ended rfl)
  have hutf : Text.encode "ab" = [97, 98] := by decide
  have hplain : s.upload.contents 8192 = { pieces := [[.plain (Text.encode "ab")]] } := by
    rw [contents_eq_through]
    exact through_plain hyields
  exact ⟨hyields, hutf ▸ hplain,
    GzipReader.contents_of_error (GzipReader.read_of_text rfl (by decide))⟩

end Upload

end QueryClient.Http
