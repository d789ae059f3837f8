import QueryClient.Http.Queue

/-!
# Every execution completes the request

Sending a request can fail while its files are opened, at the call, while its data are read, between
two pieces of the body and at the receiver of a piece; every hook can fail after that. Whichever of these happen, the request
is completed, its hooks have run once and in order, and they have seen the response.
-/

namespace QueryClient.Http

namespace Request

/-! ## Hooks -/

/-- A sink after hooks, which may close it. -/
def closing (hooks : List Hook) (sink : Option ResultSink) : Option ResultSink :=
  if .closeSink ∈ hooks then sink.map .close else sink

theorem isSome_closing (hooks : List Hook) (sink : Option ResultSink) :
    (closing hooks sink).isSome = sink.isSome := by
  unfold closing
  split
  · exact Option.isSome_map
  · rfl

theorem closing_cons (hook : Hook) (hooks : List Hook) (sink : Option ResultSink) :
    closing (hook :: hooks) sink = closing hooks (closing [hook] sink) := by
  have hclose : ResultSink.close ∘ ResultSink.close = ResultSink.close :=
    funext ResultSink.close_close
  unfold closing
  by_cases hhook : Hook.closeSink = hook <;> by_cases hrest : Hook.closeSink ∈ hooks <;>
    simp [hhook, hrest, hclose]

def note (r : Request) (hook : Hook) : HookRun :=
  ⟨hook, r.state, r.response.getD default, (r.act hook).2⟩

/-- Whether a hook fails depends on a request only by whether there is a sink. -/
theorem failure_act {r r' : Request} (hsink : r'.sink.isSome = r.sink.isSome) (hook : Hook) :
    (r'.act hook).2 = (r.act hook).2 := by
  cases hook with
  | notify name | failing fault | report => rfl
  | closeSink =>
      simp only [act]
      cases hs : r.sink <;> cases hs' : r'.sink <;> simp_all

theorem runHook_eq (r : Request) (hook : Hook) :
    r.runHook hook
      = { r with sink := closing [hook] r.sink, runs := r.runs ++ [r.note hook] } := by
  cases hook with
  | notify name | failing fault | report => rfl
  | closeSink =>
      simp only [runHook, act, note, closing, List.mem_singleton, ↓reduceIte]
      cases hs : r.sink with
      | none => simp [hs]
      | some sink => rfl

theorem runHooks_eq (hooks : List Hook) (r : Request) :
    hooks.foldl runHook r
      = { r with sink := closing hooks r.sink, runs := r.runs ++ hooks.map r.note } := by
  induction hooks generalizing r with
  | nil => simp [closing]
  | cons hook hooks ih =>
      -- What is noted of later hooks does not depend on what this one does to the sink.
      have hnote : (r.runHook hook).note = r.note := by
        funext next
        rw [runHook_eq, note, failure_act (isSome_closing _ _)]
        rfl
      rw [List.foldl_cons, ih, hnote, runHook_eq]
      simp only [closing_cons hook hooks, List.map_cons, List.append_assoc, List.singleton_append]

/-- All hooks of a request: the progress hook comes last. -/
def allHooks (r : Request) : List Hook :=
  r.hooks ++ r.progress.toList

theorem complete_eq (r : Request) (response : Response) :
    r.complete response
      = { r with
          response := some response
          sink := closing r.allHooks r.sink
          runs := r.runs ++ r.allHooks.map { r with response := some response }.note
          state := .completed
          done := true } := by
  have hprogress (r : Request) : (r.hooks.foldl runHook r).progress = r.progress := by
    rw [runHooks_eq]
  simp only [complete]
  rw [hprogress, ← List.foldl_append, runHooks_eq]
  rfl

/-! ## Pieces of a body -/

/-- What refuses one of the pieces, if they are too many. -/
def refusal (r : Request) (pieces : List (List UInt8)) : Option Disruption :=
  match r.limit with
  | none => none
  | some limit => if pieces.length ≤ limit.room then none else some limit.reason

/-- The pieces that are taken before one is refused. -/
def accepted (r : Request) (pieces : List (List UInt8)) : List (List UInt8) :=
  match r.limit with
  | none => pieces
  | some limit => pieces.take limit.room

def filled (r : Request) (pieces : List (List UInt8)) : Option ResultSink :=
  if r.download.isSome then r.sink else r.sink.map (pieces.foldl .append ·)

def handed (r : Request) (pieces : List (List UInt8)) : Request :=
  { r with
    download := r.download.map (· ++ pieces)
    sink := r.filled pieces
    limit := r.limit.map fun limit => { limit with room := limit.room - pieces.length } }

theorem handed_nil (r : Request) : r.handed [] = r := by
  cases r with
  | mk => simp [handed, filled]

theorem take_of_unlimited {r : Request} (h : r.limit = none) (chunk : List UInt8) :
    r.take chunk = .ok (r.handed [chunk]) := by
  simp only [take, h, handed, deliver, filled, Option.map_none]
  cases hd : r.download <;> simp

theorem take_of_room {r : Request} {room : Nat} {reason : Disruption}
    (h : r.limit = some ⟨room + 1, reason⟩) (chunk : List UInt8) :
    r.take chunk = .ok (r.handed [chunk]) := by
  simp only [take, h, handed, deliver, filled, Limit.spend, Except.map]
  cases hd : r.download <;> simp

theorem take_of_full {r : Request} {reason : Disruption} (h : r.limit = some ⟨0, reason⟩)
    (chunk : List UInt8) : r.take chunk = .error reason := by
  simp [take, h, Limit.spend, Except.map]

theorem handed_handed (r : Request) (chunk : List UInt8) (pieces : List (List UInt8)) :
    (r.handed [chunk]).handed pieces = r.handed (chunk :: pieces) := by
  simp only [handed, filled, Option.isSome_map, Option.map_map]
  cases hd : r.download <;> cases hs : r.sink <;> cases hl : r.limit <;>
    simp [Function.comp_def, Nat.sub_sub, Nat.add_comm]

theorem takeAll_cons_of_unlimited {r : Request} (h : r.limit = none) (chunk : List UInt8)
    (chunks : List (List UInt8)) :
    r.takeAll (chunk :: chunks)
      = if chunk.isEmpty then r.takeAll chunks else (r.handed [chunk]).takeAll chunks := by
  simp only [takeAll, take_of_unlimited h]

theorem takeAll_cons_of_room {r : Request} {room : Nat} {reason : Disruption}
    (h : r.limit = some ⟨room + 1, reason⟩) (chunk : List UInt8) (chunks : List (List UInt8)) :
    r.takeAll (chunk :: chunks)
      = if chunk.isEmpty then r.takeAll chunks else (r.handed [chunk]).takeAll chunks := by
  simp only [takeAll, take_of_room h]

theorem takeAll_cons_of_full {r : Request} {reason : Disruption}
    (h : r.limit = some ⟨0, reason⟩) (chunk : List UInt8) (chunks : List (List UInt8)) :
    r.takeAll (chunk :: chunks)
      = if chunk.isEmpty then r.takeAll chunks else (r, some reason) := by
  simp only [takeAll, take_of_full h]

def solid (chunks : List (List UInt8)) : List (List UInt8) :=
  chunks.filter fun chunk => !chunk.isEmpty

theorem solid_cons (chunk : List UInt8) (chunks : List (List UInt8)) :
    solid (chunk :: chunks) = if chunk.isEmpty then solid chunks else chunk :: solid chunks := by
  cases chunk <;> rfl

/-- Pieces are handed on one after the other until one is refused. -/
theorem takeAll_eq (r : Request) (chunks : List (List UInt8)) :
    r.takeAll chunks = (r.handed (r.accepted (solid chunks)), r.refusal (solid chunks)) := by
  -- The bound of the request shrinks with every piece, so the request is general in the induction.
  induction chunks generalizing r with
  | nil =>
      cases hl : r.limit <;> simp [takeAll, solid, accepted, refusal, hl, handed_nil]
  | cons chunk chunks ih =>
      rcases hl : r.limit with _ | ⟨_ | room, reason⟩
      · rw [takeAll_cons_of_unlimited hl, solid_cons, ih, ih]
        have hnext : (r.handed [chunk]).limit = none := by simp [handed, hl]
        split
        · rfl
        · simp only [accepted, refusal, hl, hnext, handed_handed]
      · rw [takeAll_cons_of_full hl, solid_cons, ih]
        split
        · rfl
        · simp [accepted, refusal, hl, handed_nil]
      · rw [takeAll_cons_of_room hl, solid_cons, ih, ih]
        have hnext : (r.handed [chunk]).limit = some ⟨room, reason⟩ := by simp [handed, hl]
        split
        · rfl
        · simp only [accepted, refusal, hl, hnext, handed_handed, List.take_succ_cons,
            List.length_cons, Nat.add_le_add_iff_right]

end Request

/-! ## What comes of sending -/

/-- The ways in which sending a request can go: the pieces of the body that are passed on, and what
comes of it. -/
inductive Exchanged (q : Queue) (store : Files.Store) (r : Request) :
    List (List UInt8) → Except Disruption Response → Prop where
  /-- The files that go with the request cannot be opened. -/
  | unread {reason : Disruption} (hdata : cargo store q.config.chunkSize r = .error reason) :
      Exchanged q store r [] (.error reason)
  /-- The call fails, perhaps because the data cannot be read any further. -/
  | unanswered {data : Cargo} {reason : Disruption}
      (hdata : cargo store q.config.chunkSize r = .ok data)
      (hreply : (q.session.send (r.carrying data)).2 = .failure reason) :
      Exchanged q store r [] (.error reason)
  /-- The body is kept for the response and breaks off. -/
  | keptBroken {data : Cargo} {a : Answer} {reason : Disruption}
      (hdata : cargo store q.config.chunkSize r = .ok data)
      (hreply : (q.session.send (r.carrying data)).2 = .answer a)
      (hkept : r.isStreamed = false ∨ isSuccess a.status = false)
      (hbroken : a.breakdown = some reason) :
      Exchanged q store r [] (.error reason)
  /-- The body is kept for the response. -/
  | kept {data : Cargo} {a : Answer}
      (hdata : cargo store q.config.chunkSize r = .ok data)
      (hreply : (q.session.send (r.carrying data)).2 = .answer a)
      (hkept : r.isStreamed = false ∨ isSuccess a.status = false)
      (hwhole : a.breakdown = none) :
      Exchanged q store r [] (.ok { status := a.status, headers := a.headers, body := a.body })
  /-- The body is passed on until a piece is refused. -/
  | refused {data : Cargo} {a : Answer} {reason : Disruption}
      (hdata : cargo store q.config.chunkSize r = .ok data)
      (hreply : (q.session.send (r.carrying data)).2 = .answer a)
      (hpassed : r.isStreamed = true ∧ isSuccess a.status = true)
      (hrefused : r.refusal (Request.solid (a.chunks q.config.chunkSize)) = some reason) :
      Exchanged q store r (r.accepted (Request.solid (a.chunks q.config.chunkSize)))
        (.error reason)
  /-- The body is passed on and breaks off. -/
  | passedBroken {data : Cargo} {a : Answer} {reason : Disruption}
      (hdata : cargo store q.config.chunkSize r = .ok data)
      (hreply : (q.session.send (r.carrying data)).2 = .answer a)
      (hpassed : r.isStreamed = true ∧ isSuccess a.status = true)
      (htaken : r.refusal (Request.solid (a.chunks q.config.chunkSize)) = none)
      (hbroken : a.breakdown = some reason) :
      Exchanged q store r (Request.solid (a.chunks q.config.chunkSize)) (.error reason)
  /-- The body is passed on, and the response has none. -/
  | passed {data : Cargo} {a : Answer}
      (hdata : cargo store q.config.chunkSize r = .ok data)
      (hreply : (q.session.send (r.carrying data)).2 = .answer a)
      (hpassed : r.isStreamed = true ∧ isSuccess a.status = true)
      (htaken : r.refusal (Request.solid (a.chunks q.config.chunkSize)) = none)
      (hwhole : a.breakdown = none) :
      Exchanged q store r (Request.solid (a.chunks q.config.chunkSize))
        (.ok { status := a.status, headers := a.headers })

/-- The response that is recorded for what came of a request. -/
def recorded : Except Disruption Response → Response
  | .ok response => response
  | .error (.transfer message) | .error (.system message) => { status := 0, error := some message }
  | .error (.foreign _) => aborted

def raised : Except Disruption Response → Option Fault
  | .error (.foreign fault) => some fault
  | .error (.transfer _) | .error (.system _) | .ok _ => none

theorem Request.conclude_eq (r : Request) (outcome : Except Disruption Response) :
    r.conclude outcome = (r.complete (recorded outcome), raised outcome) := by
  cases outcome with
  | ok response => rfl
  | error reason =>
      cases reason with
      | transfer message | system message | foreign fault => rfl

theorem Request.accepted_of_refusal {r : Request} {pieces : List (List UInt8)}
    (h : r.refusal pieces = none) : r.accepted pieces = pieces := by
  unfold refusal at h
  unfold accepted
  cases hl : r.limit with
  | none => rfl
  | some limit =>
      simp only [hl] at h
      split at h
      · rename_i hroom
        exact List.take_of_length_le hroom
      · cases h

theorem Request.receive_kept {r : Request} {a : Answer}
    (h : r.isStreamed = false ∨ isSuccess a.status = false) (chunkSize : Int) :
    r.receive chunkSize a
      = (r, match a.breakdown with
          | some reason => .error reason
          | none => .ok { status := a.status, headers := a.headers, body := a.body }) := by
  have hno : (r.isStreamed && isSuccess a.status) = false := by
    rcases h with h | h
    · rw [h, Bool.false_and]
    · rw [h, Bool.and_false]
  simp only [receive, hno, Bool.false_eq_true, ↓reduceIte]
  cases a.breakdown <;> rfl

theorem Request.receive_passed {r : Request} {a : Answer}
    (h : r.isStreamed = true ∧ isSuccess a.status = true) (chunkSize : Int) :
    r.receive chunkSize a
      = (r.handed (r.accepted (solid (a.chunks chunkSize))),
          match r.refusal (solid (a.chunks chunkSize)), a.breakdown with
          | some reason, _ | none, some reason => .error reason
          | none, none => .ok { status := a.status, headers := a.headers }) := by
  simp only [receive, h.1, h.2, Bool.and_self, ↓reduceIte, takeAll_eq]
  cases r.refusal (solid (a.chunks chunkSize)) <;> cases a.breakdown <;> rfl

theorem Queue.exchange_of_answer {q : Queue} {store : Files.Store} {r : Request} {data : Cargo}
    {a : Answer} (hdata : cargo store q.config.chunkSize r = .ok data)
    (hreply : (q.session.send (r.carrying data)).2 = .answer a) :
    (q.exchange store r).2 = r.receive q.config.chunkSize a := by
  simp only [exchange, hdata, hreply]

/-- Sending a request goes one of these ways, and what is passed on is in the request. -/
theorem exists_exchanged (q : Queue) (store : Files.Store) (r : Request) :
    ∃ passed outcome, Exchanged q store r passed outcome
      ∧ (q.exchange store r).2 = (r.handed passed, outcome) := by
  cases hdata : cargo store q.config.chunkSize r with
  | error reason =>
      refine ⟨[], _, .unread hdata, ?_⟩
      simp only [Queue.exchange, hdata, Request.handed_nil]
  | ok data =>
      cases hreply : (q.session.send (r.carrying data)).2 with
      | failure reason =>
          refine ⟨[], _, .unanswered hdata hreply, ?_⟩
          simp only [Queue.exchange, hdata, hreply, Request.handed_nil]
      | answer a =>
          rw [Queue.exchange_of_answer hdata hreply]
          by_cases hpassed : r.isStreamed = true ∧ isSuccess a.status = true
          · rw [Request.receive_passed hpassed]
            cases hrefusal : r.refusal (Request.solid (a.chunks q.config.chunkSize)) with
            | some reason => exact ⟨_, _, .refused hdata hreply hpassed hrefusal, rfl⟩
            | none =>
                rw [Request.accepted_of_refusal hrefusal]
                cases hbreak : a.breakdown with
                | some reason =>
                    exact ⟨_, _, .passedBroken hdata hreply hpassed hrefusal hbreak, rfl⟩
                | none => exact ⟨_, _, .passed hdata hreply hpassed hrefusal hbreak, rfl⟩
          · have hkept : r.isStreamed = false ∨ isSuccess a.status = false := by
              rw [Decidable.not_and_iff_or_not, Bool.not_eq_true, Bool.not_eq_true] at hpassed
              exact hpassed
            rw [Request.receive_kept hkept]
            cases hbreak : a.breakdown with
            | some reason =>
                exact ⟨[], _, .keptBroken hdata hreply hkept hbreak, by rw [Request.handed_nil]⟩
            | none => exact ⟨[], _, .kept hdata hreply hkept hbreak, by rw [Request.handed_nil]⟩

/-! ## Completion -/

/-- That a request is being executed makes no difference to what is sent and passed on. -/
theorem Exchanged.of_markExecuting {q : Queue} {store : Files.Store} {r : Request}
    {passed : List (List UInt8)} {outcome : Except Disruption Response}
    (h : Exchanged q store r.markExecuting passed outcome) :
    Exchanged q store r passed outcome := by
  cases h with
  | unread hdata => exact .unread hdata
  | unanswered hdata hreply => exact .unanswered hdata hreply
  | keptBroken hdata hreply hkept hbroken => exact .keptBroken hdata hreply hkept hbroken
  | kept hdata hreply hkept hwhole => exact .kept hdata hreply hkept hwhole
  | refused hdata hreply hpassed hrefused => exact .refused hdata hreply hpassed hrefused
  | passedBroken hdata hreply hpassed htaken hbroken =>
      exact .passedBroken hdata hreply hpassed htaken hbroken
  | passed hdata hreply hpassed htaken hwhole => exact .passed hdata hreply hpassed htaken hwhole

/-- The request `r` has been completed as `r'` with what came of it, after pieces of a body were
passed on. -/
structure Completed (r : Request) (passed : List (List UInt8))
    (outcome : Except Disruption Response) (r' : Request) : Prop where
  state : r'.state = .completed
  done : r'.done = true
  response : r'.response = some (recorded outcome)
  /-- The hooks ran once each and in order, the progress hook after them, and whether or not one
  failed. They found the response recorded. -/
  runs : r'.runs = r.runs ++ (r.hooks ++ r.progress.toList).map fun hook =>
    ⟨hook, .executing, recorded outcome, (r.act hook).2⟩
  /-- A collector has the pieces. -/
  download : r'.download = r.download.map (· ++ passed)
  /-- A sink has them where there is no collector, and a hook may have closed it. -/
  sink : r'.sink = Request.closing (r.hooks ++ r.progress.toList)
    (if r.download.isSome then r.sink else r.sink.map (passed.foldl .append ·))

/-- A request that is completed after an exchange is completed as a whole. -/
theorem completed_handed (r : Request) (passed : List (List UInt8))
    (outcome : Except Disruption Response) :
    Completed r passed outcome
      ((r.markExecuting.handed passed).complete (recorded outcome)) := by
  rw [Request.complete_eq]
  -- Hooks see the request after the exchange, of which only whether there is a sink matters.
  have hsink : (r.filled passed).isSome = r.sink.isSome := by
    unfold Request.filled
    split
    · rfl
    · exact Option.isSome_map
  constructor
  · rfl
  · rfl
  · rfl
  · have hnote (hook : Hook) : Request.note
        { r.markExecuting.handed passed with response := some (recorded outcome) } hook
          = ⟨hook, .executing, recorded outcome, (r.act hook).2⟩ := by
      rw [Request.note, Request.failure_act hsink]
      rfl
    exact congrArg (r.runs ++ ·) (List.map_congr_left fun hook _ => hnote hook)
  · rfl
  · rfl

/-- However the execution of a request goes, the request is completed with what came of it, and
nothing is raised but a failure that is neither one of the transfer nor one of the system. -/
theorem execute_completes (q : Queue) (store : Files.Store) (r : Request) :
    ∃ passed outcome, Exchanged q store r passed outcome
      ∧ Completed r passed outcome (q.execute store r).2.1
      ∧ (q.execute store r).2.2 = raised outcome := by
  obtain ⟨passed, outcome, hexchanged, hr⟩ := exists_exchanged q store r.markExecuting
  have hexecute : (q.execute store r).2
      = ((r.markExecuting.handed passed).complete (recorded outcome), raised outcome) := by
    rw [← Request.conclude_eq]
    simp only [Queue.execute, hr]
  refine ⟨passed, outcome, hexchanged.of_markExecuting, ?_, by rw [hexecute]⟩
  rw [hexecute]
  exact completed_handed r passed outcome

end QueryClient.Http
