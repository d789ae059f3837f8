import Mathlib.Algebra.GroupWithZero.Nat
import Mathlib.Data.List.Basic
import QueryClient.Proofs.Http.Completion

/-!
# Workers

Requests are handed to workers, which take them up and bring them to their end in any order. What a
worker does with a request is a row of steps, between which anything may happen to other requests.
Putting a request in is two steps as well: a worker may be done with it before its ticket is noted
as pending. Until that is done, the queue is locked.
-/

namespace QueryClient.Http

namespace Queue

/-- A request is handed to the workers, which may take it up from now on. -/
def submit (q : Queue) (r : Request) : Queue :=
  { q with requests := q.requests ++ [r.markQueued] }

/-- A ticket is noted as pending. -/
def file (q : Queue) (ticket : Nat) : Queue :=
  { q with pending := q.pending ++ [ticket] }

/-- A request has become another one. -/
def put (q : Queue) (ticket : Nat) (r : Request) : Queue :=
  { q with requests := q.requests.set ticket r }

theorem enqueue_eq (q : Queue) (r : Request) :
    q.enqueue r = ((q.submit r).file q.requests.length, q.requests.length) := rfl

theorem start_eq {q : Queue} {ticket : Nat} {r : Request} (h : q.request? ticket = some r) :
    q.start ticket = q.put ticket r.markExecuting := by
  obtain ⟨hlt, hget⟩ := List.getElem?_eq_some_iff.mp h
  rw [start, put, List.modify_eq_set_get Request.markExecuting hlt, List.get_eq_getElem, hget]

theorem finish_eq {q : Queue} {ticket : Nat} {r : Request} (h : q.request? ticket = some r)
    (store : Files.Store) :
    q.finish store ticket
      = ((q.exchange store r).1.put ticket (q.exchange store r).2.1).put ticket
          ((q.exchange store r).2.1.conclude (q.exchange store r).2.2).1 := by
  simp only [finish, h, put, List.set_set]

theorem request?_put {q : Queue} {ticket : Nat} {r : Request} (h : q.request? ticket = some r)
    (r' : Request) : (q.put ticket r').request? ticket = some r' :=
  List.getElem?_set_self (List.getElem?_eq_some_iff.mp h).1

/-- Sending a request changes nothing of a queue but its session. -/
theorem exists_exchange_eq (q : Queue) (store : Files.Store) (r : Request) :
    ∃ session, (q.exchange store r).1 = { q with session } := by
  unfold exchange
  split
  · exact ⟨q.session, rfl⟩
  · dsimp only
    split <;> exact ⟨_, rfl⟩

end Queue

/-! ## The work on one request -/

/-- The steps of a worker with a request. -/
inductive Phase where
  | start
  /-- Send the request and take in what comes back, with the files as they are then. -/
  | exchange (store : Files.Store)
  | complete
  /-- Be done with the request, perhaps with a failure that is not recorded on its response. -/
  | leave

/-- How far the work on a request is. -/
inductive Stage where
  | waiting
  | running
  | answered (outcome : Except Disruption Response)
  | completed
  | left

/-- A worker has the request. -/
def Stage.isBusy : Stage → Bool
  | running | answered _ | completed => true
  | waiting | left => false

/-- The number of steps that remain. -/
def Stage.remaining : Stage → Nat
  | waiting => 4
  | running => 3
  | answered _ => 2
  | completed => 1
  | left => 0

/-- A worker's step with the request `r`: it leaves a queue, the request and a stage. -/
inductive Work (q : Queue) (r : Request) : Phase → Stage → Queue → Request → Stage → Prop where
  | start : Work q r .start .waiting q r.markExecuting .running
  | exchange (store : Files.Store) :
      Work q r (.exchange store) .running (q.exchange store r).1 (q.exchange store r).2.1
        (.answered (q.exchange store r).2.2)
  | complete {outcome : Except Disruption Response} :
      Work q r .complete (.answered outcome) q (r.conclude outcome).1 .completed
  | leave : Work q r .leave .completed q r .left

theorem Work.exists_queue_eq {q q' : Queue} {r r' : Request} {phase : Phase} {stage stage' : Stage}
    (h : Work q r phase stage q' r' stage') : ∃ session, q' = { q with session } := by
  cases h with
  | start | complete | leave => exact ⟨q.session, rfl⟩
  | exchange => exact Queue.exists_exchange_eq q _ r

theorem Work.remaining {q q' : Queue} {r r' : Request} {phase : Phase} {stage stage' : Stage}
    (h : Work q r phase stage q' r' stage') : stage'.remaining + 1 = stage.remaining := by
  cases h <;> rfl

/-- What has become of the request `r₀` by these steps. -/
inductive History (r₀ : Request) : List Phase → Request → Stage → Prop where
  | waiting : History r₀ [] r₀.markQueued .waiting
  | running : History r₀ [.start] r₀.markExecuting .running
  | answered {q : Queue} {store : Files.Store} {passed : List (List UInt8)}
      {outcome : Except Disruption Response} (hexchanged : Exchanged q store r₀ passed outcome) :
      History r₀ [.start, .exchange store] (r₀.markExecuting.handed passed) (.answered outcome)
  | completed {q : Queue} {store : Files.Store} {passed : List (List UInt8)}
      {outcome : Except Disruption Response} (hexchanged : Exchanged q store r₀ passed outcome) :
      History r₀ [.start, .exchange store, .complete]
        ((r₀.markExecuting.handed passed).complete (recorded outcome)) .completed
  | left {q : Queue} {store : Files.Store} {passed : List (List UInt8)}
      {outcome : Except Disruption Response} (hexchanged : Exchanged q store r₀ passed outcome) :
      History r₀ [.start, .exchange store, .complete, .leave]
        ((r₀.markExecuting.handed passed).complete (recorded outcome)) .left

theorem History.work {r₀ r r' : Request} {phases : List Phase} {phase : Phase}
    {stage stage' : Stage} {q q' : Queue} (h : History r₀ phases r stage)
    (hwork : Work q r phase stage q' r' stage') :
    History r₀ (phases ++ [phase]) r' stage' := by
  cases hwork with
  | start =>
      cases h with
      | waiting => exact .running
  | exchange store =>
      cases h with
      | running =>
          obtain ⟨passed, outcome, hexchanged, hr⟩ := exists_exchanged q store r₀.markExecuting
          rw [hr]
          exact .answered hexchanged.of_markExecuting
  | complete =>
      cases h with
      | answered hexchanged =>
          rw [Request.conclude_eq]
          exact .completed hexchanged
  | leave =>
      cases h with
      | completed hexchanged => exact .left hexchanged

theorem History.completed_iff {r₀ r : Request} {phases : List Phase} {stage : Stage}
    (h : History r₀ phases r stage) :
    r.state = .completed ↔ stage = .completed ∨ stage = .left := by
  cases h with
  | waiting | running | answered =>
      simp [Request.markQueued, Request.markExecuting, Request.handed]
  | completed | left => simp [Request.complete_eq]

/-- The request `r₀` was executed at most once on its way to `r`, and completed with its hooks run
if it is completed now. -/
structure ExecutedOnce (r₀ : Request) (phases : List Phase) (r : Request) : Prop where
  once : ∃ store, phases <+: [.start, .exchange store, .complete, .leave]
  unfinished : r.state ≠ .completed → Phase.complete ∉ phases ∧ r.runs = r₀.runs
  finished : r.state = .completed → ∃ q store passed outcome,
    Exchanged q store r₀ passed outcome ∧ Completed r₀ passed outcome r
      ∧ [.start, .exchange store, .complete] <+: phases

theorem History.executedOnce {r₀ r : Request} {phases : List Phase} {stage : Stage}
    (h : History r₀ phases r stage) : ExecutedOnce r₀ phases r := by
  have hstate := h.completed_iff
  cases h with
  | waiting =>
      exact ⟨⟨{}, by simp⟩, fun _ => ⟨by simp, rfl⟩, fun hdone => by simp [hstate] at hdone⟩
  | running =>
      exact ⟨⟨{}, by simp⟩, fun _ => ⟨by simp, rfl⟩, fun hdone => by simp [hstate] at hdone⟩
  | @answered q store passed outcome hexchanged =>
      exact ⟨⟨store, by simp⟩, fun _ => ⟨by simp, rfl⟩, fun hdone => by simp [hstate] at hdone⟩
  | @completed q store passed outcome hexchanged =>
      refine ⟨⟨store, by simp⟩, fun hopen => absurd (hstate.mpr (.inl rfl)) hopen, fun _ => ?_⟩
      exact ⟨q, store, passed, outcome, hexchanged, completed_handed r₀ passed outcome,
        List.prefix_refl _⟩
  | @left q store passed outcome hexchanged =>
      refine ⟨⟨store, by simp⟩, fun hopen => absurd (hstate.mpr (.inr rfl)) hopen, fun _ => ?_⟩
      exact ⟨q, store, passed, outcome, hexchanged, completed_handed r₀ passed outcome,
        by simp⟩

/-! ## All requests together -/

/-- A queue with the work on its requests, which are known by their tickets. -/
structure Pool where
  queue : Queue
  stages : List Stage := []
  /-- The ticket that is about to be noted as pending; the queue is locked meanwhile. -/
  filing : Option Nat := none

namespace Pool

/-- The number of workers that have a request. -/
def busy (p : Pool) : Nat :=
  p.stages.countP Stage.isBusy

/-- The number of steps that remain for all requests. -/
def remaining (p : Pool) : Nat :=
  (p.stages.map Stage.remaining).sum

def submit (p : Pool) (r : Request) : Pool where
  queue := p.queue.submit r
  stages := p.stages ++ [.waiting]
  filing := some p.queue.requests.length

def file (p : Pool) (ticket : Nat) : Pool :=
  { p with queue := p.queue.file ticket, filing := none }

/-- The work on a request has come to a stage and left this queue. -/
def put (p : Pool) (ticket : Nat) (q : Queue) (r : Request) (stage : Stage) : Pool :=
  { p with queue := q.put ticket r, stages := p.stages.set ticket stage }

def release (p : Pool) (ticket : Nat) : Pool :=
  { p with queue := p.queue.release ticket }

@[simp] theorem stages_submit (p : Pool) (r : Request) :
    (p.submit r).stages = p.stages ++ [.waiting] := rfl

theorem stages_file (p : Pool) (ticket : Nat) : (p.file ticket).stages = p.stages := rfl

@[simp] theorem stages_put (p : Pool) (ticket : Nat) (q : Queue) (r : Request) (stage : Stage) :
    (p.put ticket q r stage).stages = p.stages.set ticket stage := rfl

theorem stages_release (p : Pool) (ticket : Nat) : (p.release ticket).stages = p.stages := rfl

end Pool

inductive Event where
  | submit (r : Request)
  | file
  | work (ticket : Nat) (phase : Phase)
  | release (ticket : Nat)

/-- What may happen next. Only the work on the requests goes on while the queue is locked. -/
inductive Step (p : Pool) : Event → Pool → Prop where
  | submit {r : Request} (hunlocked : p.filing = none)
      (hworkers : 0 < p.queue.config.maxParallel) :
      Step p (.submit r) (p.submit r)
  | file {ticket : Nat} (hfiling : p.filing = some ticket) :
      Step p .file (p.file ticket)
  /-- A request is taken up only by a worker that has no other one. -/
  | work {ticket : Nat} {phase : Phase} {r r' : Request} {stage stage' : Stage} {q : Queue}
      (hrequest : p.queue.request? ticket = some r) (hstage : p.stages[ticket]? = some stage)
      (hfree : stage = .waiting → (p.busy : Int) < p.queue.config.maxParallel)
      (hwork : Work p.queue r phase stage q r' stage') :
      Step p (.work ticket phase) (p.put ticket q r' stage')
  | release {ticket : Nat} (hunlocked : p.filing = none)
      (hleft : p.stages[ticket]? = some .left) :
      Step p (.release ticket) (p.release ticket)

inductive Run (p : Pool) : List Event → Pool → Prop where
  | nil : Run p [] p
  | snoc {events : List Event} {event : Event} {p₁ p₂ : Pool} (hrun : Run p events p₁)
      (hstep : Step p₁ event p₂) : Run p (events ++ [event]) p₂

theorem Run.append {p p₁ p₂ : Pool} {events events' : List Event} (h : Run p events p₁)
    (h' : Run p₁ events' p₂) : Run p (events ++ events') p₂ := by
  induction h' with
  | nil => simpa using h
  | snoc _ hstep ih =>
      rw [← List.append_assoc]
      exact ih.snoc hstep

theorem Run.cons {p p₁ p₂ : Pool} {event : Event} {events : List Event} (hstep : Step p event p₁)
    (h : Run p₁ events p₂) : Run p (event :: events) p₂ := by
  simpa using (Run.nil.snoc hstep).append h

def Event.request? : Event → Option Request
  | submit r => some r
  | file | work _ _ | release _ => none

def Event.phase? (ticket : Nat) : Event → Option Phase
  | work t phase => if t = ticket then some phase else none
  | submit _ | file | release _ => none

def Event.isWork : Event → Bool
  | work _ _ => true
  | submit _ | file | release _ => false

/-- The requests that were put in, by their ticket. -/
def submitted (events : List Event) : List Request :=
  events.filterMap Event.request?

/-- What was done with the request of a ticket. -/
def phases (ticket : Nat) (events : List Event) : List Phase :=
  events.filterMap (Event.phase? ticket)

theorem submitted_append (events events' : List Event) :
    submitted (events ++ events') = submitted events ++ submitted events' :=
  List.filterMap_append

theorem phases_append (ticket : Nat) (events events' : List Event) :
    phases ticket (events ++ events') = phases ticket events ++ phases ticket events' :=
  List.filterMap_append

/-! ## A ticket at a time -/

/-- Starting, finishing and releasing a ticket is one way for the workers to go on. -/
theorem run_ticket {p : Pool} {ticket : Nat} {r : Request} (hunlocked : p.filing = none)
    (hrequest : p.queue.request? ticket = some r) (hstage : p.stages[ticket]? = some .waiting)
    (hfree : (p.busy : Int) < p.queue.config.maxParallel) (store : Files.Store) :
    Run p
      [.work ticket .start, .work ticket (.exchange store), .work ticket .complete,
        .work ticket .leave, .release ticket]
      { queue := ((p.queue.start ticket).finish store ticket).release ticket
        stages := p.stages.set ticket .left
        filing := none } := by
  have hlt : ticket < p.stages.length := (List.getElem?_eq_some_iff.mp hstage).1
  obtain ⟨session, hsession⟩ :=
    (p.queue.put ticket r.markExecuting).exists_exchange_eq store r.markExecuting
  have hsent : ((p.queue.put ticket r.markExecuting).exchange store r.markExecuting).1.request?
      ticket = some r.markExecuting := by
    rw [hsession]
    exact Queue.request?_put hrequest _
  rw [Queue.start_eq hrequest, Queue.finish_eq (Queue.request?_put hrequest _)]
  have hrun : Run p
      [.work ticket .start, .work ticket (.exchange store), .work ticket .complete,
        .work ticket .leave, .release ticket] _ :=
    .cons (.work hrequest hstage (fun _ => hfree) .start) <|
    .cons (.work (Queue.request?_put hrequest _) (List.getElem?_set_self hlt) nofun
      (.exchange store)) <|
    .cons (.work (Queue.request?_put hsent _) (List.getElem?_set_self (by simpa using hlt)) nofun
      .complete) <|
    .cons (.work (Queue.request?_put (Queue.request?_put hsent _) _)
      (List.getElem?_set_self (by simpa using hlt)) nofun .leave) <|
    .cons (.release hunlocked (List.getElem?_set_self (by simpa using hlt))) .nil
  simpa [Pool.put, Pool.release, Queue.put, List.set_set, hunlocked] using hrun

end QueryClient.Http
