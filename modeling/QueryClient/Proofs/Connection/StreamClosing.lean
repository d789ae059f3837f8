import QueryClient.Connection.Execution

/-!
# Closing streams

Once the request of an upload is made, the source is closed, whatever comes of the headers, of
reading the source, of the transfer or of the answer. When the statement or the address cannot be
made the call ends before that, and the source stays open. The target of a download is never closed.
-/

namespace QueryClient

open Http (Request Stream)

variable {c : Connection} {s : Stream}

theorem Http.Stream.closed_close (h : s.stuck = false) : s.close.closed = true := by
  simp [close, h]

theorem Http.Stream.closed_receive (chunks : List (List UInt8)) :
    (s.receive chunks).closed = s.closed := by
  unfold receive
  split <;> rfl

namespace Connection

/-! ## Transfers -/

theorem transfer_of_error (c : Connection) (s : Stream) (fault : Fault) :
    c.transfer s (.error fault) = (c, s, .error fault) := rfl

/-- The stream that a transfer leaves, once there is a request. -/
theorem stream_transfer (c : Connection) (s : Stream) (c' : Connection) (r : Request) :
    (s.kind = .upload → (c.transfer s (.ok (c', r))).2.1 = s.close)
      ∧ (s.kind ≠ .upload → (c.transfer s (.ok (c', r))).2.1.closed = s.closed) := by
  simp only [transfer]
  cases s.attach r with
  | error fault =>
      constructor
      · intro hkind
        simp [hkind]
      · intro hkind
        simp [hkind]
  | ok r' =>
      -- Neither a failure of the request nor one in its answer matters to the stream.
      constructor
      · intro hkind
        simp only [hkind, beq_self_eq_true, if_true]
        split <;> rfl
      · intro hkind
        simp only [beq_iff_eq, hkind, if_false]
        split <;> exact Stream.closed_receive _

theorem closed_transfer (hkind : s.kind ≠ .upload)
    (made : Except Fault (Connection × Request)) :
    (c.transfer s made).2.1.closed = s.closed := by
  cases made with
  | error fault => rw [transfer_of_error]
  | ok made => exact (stream_transfer c s made.1 made.2).2 hkind

/-! ## Uploads and downloads -/

/-- The request of an upload with a statement. -/
def uploadMade (c : Connection) (sql bindings : Value) : Except Fault Request := do
  c.uploadRequest (← streamStatement sql bindings)

theorem streamWrite_eq (c : Connection) (s : Stream) (sql bindings : Value) :
    c.streamWrite s sql bindings = c.transfer s ((c.uploadMade sql bindings).map (c, ·)) := by
  unfold streamWrite uploadMade
  cases streamStatement sql bindings with
  | error fault => rfl
  | ok statement =>
      simp only [ok_bind]
      cases c.uploadRequest statement <;> rfl

theorem streamWrite_of_error {sql bindings : Value} {fault : Fault}
    (h : c.uploadMade sql bindings = .error fault) (s : Stream) :
    c.streamWrite s sql bindings = (c, s, .error fault) := by
  rw [streamWrite_eq, h]
  exact transfer_of_error c s fault

/-- The source of an upload is closed once its request is made; otherwise the call has done nothing
but fail. Whatever is no upload stays as it is, in an upload as in a download. -/
theorem source_closed (c : Connection) (s : Stream) (sql bindings : Value) :
    (s.kind = .upload →
      (∀ r, c.uploadMade sql bindings = .ok r →
        (c.streamWrite s sql bindings).2.1 = s.close
          ∧ (s.stuck = false → (c.streamWrite s sql bindings).2.1.closed = true))
      ∧ ∀ fault, c.uploadMade sql bindings = .error fault →
        c.streamWrite s sql bindings = (c, s, .error fault))
    ∧ (s.kind ≠ .upload → (c.streamWrite s sql bindings).2.1.closed = s.closed
      ∧ (c.streamRead s sql bindings).2.1.closed = s.closed) := by
  refine ⟨fun hkind => ⟨fun r hmade => ?_, fun fault hmade => streamWrite_of_error hmade s⟩,
    fun hkind => ⟨closed_transfer hkind _, closed_transfer hkind _⟩⟩
  have hclose : (c.streamWrite s sql bindings).2.1 = s.close := by
    rw [streamWrite_eq, hmade]
    exact (stream_transfer c s c r).1 hkind
  refine ⟨hclose, fun hstuck => ?_⟩
  rw [hclose]
  exact Stream.closed_close hstuck

/-- A source that fails half-way, and the target of a download. -/
theorem source_closed_broken :
    let s : Stream := {
      kind := .upload
      own := some [.bytes [49], .broken (.foreign .unusable)]
      gzip := true }
    let target : Stream := { kind := .download }
    (({} : Connection).streamWrite s (.text "insert into t format CSV") .null).2.1.closed = true
      ∧ (({} : Connection).streamRead target (.text "select 1") .null).2.1.closed = false := by
  intro s target
  obtain ⟨hupload, -⟩ := source_closed {} s (.text "insert into t format CSV") .null
  obtain ⟨-, hdownload⟩ := source_closed {} target (.text "select 1") .null
  have hok : (({} : Connection).uploadMade (.text "insert into t format CSV") .null).isOk = true :=
    rfl
  refine ⟨?_, (hdownload (by decide)).2⟩
  cases hmade : ({} : Connection).uploadMade (.text "insert into t format CSV") .null with
  | error fault =>
      rw [hmade] at hok
      cases hok
  | ok r => exact ((hupload rfl).1 r hmade).2 rfl

/-- A statement without text, and one with more values than places for them. -/
theorem source_left_open :
    let s : Stream := { kind := .upload, content := [120] }
    (({} : Connection).streamWrite s (.text "") .null).2.1.closed = false
      ∧ (({} : Connection).streamWrite s (.text "insert into t values ?")
          (.list [.int 1, .int 2])).2.1.closed = false := by
  intro s
  have hempty : ({} : Connection).uploadMade (.text "") .null = .error .emptyStatement := rfl
  have hcount : ({} : Connection).uploadMade (.text "insert into t values ?")
      (.list [.int 1, .int 2]) = .error (.bindingCount 1 2) := rfl
  constructor
  · rw [streamWrite_of_error hempty]
  · rw [streamWrite_of_error hcount]

end Connection

end QueryClient
