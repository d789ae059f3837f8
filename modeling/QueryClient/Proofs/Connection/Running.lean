import QueryClient.Connection.Execution
import QueryClient.Proofs.Http.Completion

/-!
# Running a request

A request is executed by the caller or taken from the queue. Both send the same message and leave
the same request and the same files behind.
-/

namespace QueryClient

open Http (Call Exchanged Queue Request Sent cargo)

namespace Http.Queue

/-- The messages that go out for a request: one, as far as its data can be read, unless its files
cannot be opened. -/
def messages (q : Queue) (store : Files.Store) (r : Request) : List Sent :=
  match cargo store q.config.chunkSize r with
  | .ok data => [(r.carrying data).sent]
  | .error _ => []

theorem sent_exchange (q : Queue) (store : Files.Store) (r : Request) :
    (q.exchange store r).1.session.sent = q.session.sent ++ q.messages store r := by
  have hsend (s : Session) (call : Call) : (s.send call).1.sent = s.sent ++ [call.sent] := by
    unfold Session.send
    cases call.cargo.read.2 with
    | some reason => rfl
    | none => cases s.replies <;> rfl
  unfold exchange messages
  cases cargo store q.config.chunkSize r with
  | error reason => simp
  | ok data =>
      simp only
      split <;> exact hsend _ _

/-- What comes of sending a request depends on the session and the configuration only. -/
theorem exchange_congr {q q' : Queue} (hsession : q'.session = q.session)
    (hconfig : q'.config = q.config) (store : Files.Store) (r : Request) :
    (q'.exchange store r).2 = (q.exchange store r).2
      ∧ (q'.exchange store r).1.session = (q.exchange store r).1.session := by
  unfold exchange
  rw [hsession, hconfig]
  cases cargo store q.config.chunkSize r with
  | error reason => exact ⟨rfl, hsession⟩
  | ok data =>
      simp only
      cases (q.session.send (r.carrying data)).2 <;> exact ⟨rfl, rfl⟩

theorem requests_exchange (q : Queue) (store : Files.Store) (r : Request) :
    (q.exchange store r).1.requests = q.requests := by
  unfold exchange
  split
  · rfl
  · dsimp only
    split <;> rfl

/-- An executed request has been handed pieces of a body and then been completed. -/
theorem exists_execute_eq (q : Queue) (store : Files.Store) (r : Request) :
    ∃ passed outcome, Exchanged q store r passed outcome
      ∧ (q.execute store r).2.1 = (r.markExecuting.handed passed).complete (recorded outcome) := by
  obtain ⟨passed, outcome, hexchanged, hr⟩ := exists_exchanged q store r.markExecuting
  refine ⟨passed, outcome, hexchanged.of_markExecuting, ?_⟩
  simp only [execute, hr, Request.conclude_eq]

/-- A ticket that is started and finished leaves what executing its request leaves. -/
theorem finish_start {q : Queue} {ticket : Nat} {r : Request}
    (h : q.request? ticket = some r.markQueued) (store : Files.Store) :
    ((q.start ticket).finish store ticket).request? ticket = some (q.execute store r).2.1
      ∧ ((q.start ticket).finish store ticket).session = (q.execute store r).1.session := by
  have hlt : ticket < q.requests.length := (List.getElem?_eq_some_iff.mp h).1
  have hstarted : (q.start ticket).request? ticket = some r.markExecuting := by
    have hget : q.requests[ticket]? = some r.markQueued := h
    simp only [start, request?, List.getElem?_modify_eq, hget]
    rfl
  obtain ⟨hresult, hsession⟩ :=
    exchange_congr (show (q.start ticket).session = q.session from rfl) rfl store r.markExecuting
  have hexecute : (q.execute store r).2.1
      = (((q.start ticket).exchange store r.markExecuting).2.1.conclude
          ((q.start ticket).exchange store r.markExecuting).2.2).1 := by
    rw [hresult]
    rfl
  simp only [finish, hstarted]
  refine ⟨?_, hsession⟩
  rw [hexecute, request?, requests_exchange, List.getElem?_set_self]
  simpa [start] using hlt

end Http.Queue

namespace Connection

/-- A connection runs a request: at once, or as the request of a ticket. Afterwards the connection
and the request are these. -/
inductive Runs (c : Connection) (r : Request) : Connection → Request → Prop where
  | atOnce : Runs c r (c.execute r).1 (c.execute r).2.1
  | later {ticket : Nat} {r' : Request} (hput : c.queue.request? ticket = some r.markQueued)
      (htaken : (c.runTickets [ticket]).queue.request? ticket = some r') :
      Runs c r (c.runTickets [ticket]) r'

theorem settle_congr {c c' : Connection} (h : c'.store = c.store) (r : Request) :
    (c'.settle r).store = (c.settle r).store := by
  unfold settle
  rw [h]

/-- It makes no difference when a request is run. -/
theorem Runs.eq_execute {c c' : Connection} {r r' : Request} (h : c.Runs r c' r') :
    r' = (c.queue.execute c.store r).2.1
      ∧ c'.store = (c.settle (c.queue.execute c.store r).2.1).store
      ∧ c'.queue.session = (c.queue.execute c.store r).1.session := by
  cases h with
  | atOnce => exact ⟨rfl, settle_congr rfl _, rfl⟩
  | @later ticket _ hput htaken =>
      obtain ⟨hrequest, hsession⟩ := Queue.finish_start hput c.store
      have hreleased : (((c.queue.start ticket).finish c.store ticket).release ticket).request? ticket
          = some (c.queue.execute c.store r).2.1 := hrequest
      simp only [runTickets, hreleased] at htaken ⊢
      exact ⟨Option.some.inj (htaken.symm.trans hreleased), settle_congr rfl _, hsession⟩

theorem Runs.sent {c c' : Connection} {r r' : Request} (h : c.Runs r c' r') :
    c'.queue.session.sent
      = c.queue.session.sent ++ c.queue.messages c.store r.markExecuting := by
  rw [h.eq_execute.2.2, ← Queue.sent_exchange]
  rfl

end Connection

end QueryClient
