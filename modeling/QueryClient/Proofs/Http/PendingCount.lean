import Mathlib.Data.List.FinRange
import QueryClient.Proofs.Http.Workers

/-!
# The number of pending requests

However the work on requests is interleaved, the number of pending ones is exact, every request is
executed once, and a wait ends when all requests that were put in before it are completed.
-/

namespace QueryClient.Http

/-- The requests that have not been completed. -/
def Queue.unfinished (q : Queue) : List Request :=
  q.requests.filter (·.state != .completed)

/-- A wait that began at `p` has an end at `p'`: the workers have left what was pending. -/
def Awaited (p p' : Pool) : Prop :=
  ∀ ticket ∈ p.queue.pending, p'.stages[ticket]? = some .left

variable {p p' : Pool} {event : Event} {events : List Event} {ticket : Nat}

theorem submitted_snoc (events : List Event) (event : Event) :
    submitted (events ++ [event]) = submitted events ++ event.request?.toList := by
  rw [submitted_append]
  cases event <;> rfl

theorem phases_snoc (ticket : Nat) (events : List Event) (event : Event) :
    phases ticket (events ++ [event]) = phases ticket events ++ (event.phase? ticket).toList := by
  rw [phases_append]
  cases h : event.phase? ticket <;> simp [phases, h]

/-! ## What the work has come to -/

/-- Every ticket has its request, its stage and the history that led there. -/
structure Traced (events : List Event) (p : Pool) : Prop where
  stages : p.stages.length = p.queue.requests.length
  submitted : (submitted events).length = p.queue.requests.length
  fresh : ∀ ticket, p.queue.requests.length ≤ ticket → phases ticket events = []
  history : ∀ ticket r stage, p.queue.request? ticket = some r → p.stages[ticket]? = some stage →
    ∃ r₀, (Http.submitted events)[ticket]? = some r₀ ∧ History r₀ (phases ticket events) r stage

theorem Traced.submit (h : Traced events p) (r : Request) :
    Traced (events ++ [.submit r]) (p.submit r) := by
  have hphases (ticket : Nat) :
      phases ticket (events ++ [.submit r]) = phases ticket events := by
    rw [phases_snoc]
    exact List.append_nil _
  have hsubmitted : Http.submitted (events ++ [.submit r]) = Http.submitted events ++ [r] :=
    submitted_snoc events (.submit r)
  refine ⟨by simp [Pool.submit, Queue.submit, h.stages],
    by simp [hsubmitted, Pool.submit, Queue.submit, h.submitted],
    fun ticket hticket => ?_, fun ticket r' stage hrequest hstage => ?_⟩
  · rw [hphases]
    refine h.fresh ticket ?_
    simp only [Pool.submit, Queue.submit, List.length_append] at hticket
    omega
  · rw [hphases, hsubmitted]
    simp only [Pool.submit, Queue.submit, Queue.request?] at hrequest hstage
    rcases Nat.lt_trichotomy ticket p.queue.requests.length with hlt | heq | hgt
    · rw [List.getElem?_append_left hlt] at hrequest
      rw [List.getElem?_append_left (h.stages ▸ hlt)] at hstage
      rw [List.getElem?_append_left (h.submitted ▸ hlt)]
      exact h.history ticket r' stage hrequest hstage
    · have hnew := h.fresh ticket (Nat.le_of_eq heq.symm)
      subst heq
      rw [List.getElem?_concat_length] at hrequest
      rw [← h.stages, List.getElem?_concat_length] at hstage
      obtain rfl := Option.some.inj hrequest
      obtain rfl := Option.some.inj hstage
      refine ⟨r, ?_, ?_⟩
      · rw [← h.submitted, List.getElem?_concat_length]
      · rw [hnew]
        exact .waiting
    · have hnone : (p.queue.requests ++ [r.markQueued])[ticket]? = none := by
        rw [List.getElem?_eq_none]
        simp only [List.length_append, List.length_singleton]
        omega
      rw [hnone] at hrequest
      cases hrequest

theorem Traced.work (h : Traced events p) {phase : Phase} {r r' : Request} {stage stage' : Stage}
    {q : Queue} (hrequest : p.queue.request? ticket = some r)
    (hstage : p.stages[ticket]? = some stage) (hwork : Work p.queue r phase stage q r' stage') :
    Traced (events ++ [.work ticket phase]) (p.put ticket q r' stage') := by
  obtain ⟨session, rfl⟩ := hwork.exists_queue_eq
  have hlt : ticket < p.queue.requests.length := (List.getElem?_eq_some_iff.mp hrequest).1
  have hsubmitted : Http.submitted (events ++ [.work ticket phase]) = Http.submitted events := by
    rw [submitted_snoc]
    exact List.append_nil _
  have hother (t : Nat) (ht : ticket ≠ t) :
      phases t (events ++ [.work ticket phase]) = phases t events := by
    rw [phases_snoc, Event.phase?, if_neg ht]
    exact List.append_nil _
  have hself : phases ticket (events ++ [.work ticket phase])
      = phases ticket events ++ [phase] := by
    rw [phases_snoc, Event.phase?, if_pos rfl]
    rfl
  refine ⟨by simp [Pool.put, Queue.put, h.stages],
    by simp [hsubmitted, Pool.put, Queue.put, h.submitted],
    fun t ht => ?_, fun t r₁ stage₁ hrequest₁ hstage₁ => ?_⟩
  · simp only [Pool.put, Queue.put, List.length_set] at ht
    rw [hother t (by omega)]
    exact h.fresh t ht
  · rw [hsubmitted]
    simp only [Pool.put, Queue.put, Queue.request?] at hrequest₁ hstage₁
    by_cases ht : ticket = t
    · subst ht
      rw [List.getElem?_set_self hlt] at hrequest₁
      rw [List.getElem?_set_self (h.stages ▸ hlt)] at hstage₁
      obtain rfl := Option.some.inj hrequest₁
      obtain rfl := Option.some.inj hstage₁
      obtain ⟨r₀, hr₀, hhistory⟩ := h.history ticket r stage hrequest hstage
      refine ⟨r₀, hr₀, ?_⟩
      rw [hself]
      exact hhistory.work hwork
    · rw [List.getElem?_set_ne ht] at hrequest₁ hstage₁
      rw [hother t ht]
      exact h.history t r₁ stage₁ hrequest₁ hstage₁

/-- An event that is no concern of the requests adds nothing to what is known of them. -/
theorem Traced.quiet (h : Traced events p) (hrequest : event.request? = none)
    (hphase : ∀ ticket, event.phase? ticket = none) : Traced (events ++ [event]) p := by
  have hsubmitted : Http.submitted (events ++ [event]) = Http.submitted events := by
    rw [submitted_snoc, hrequest]
    exact List.append_nil _
  have hphases (ticket : Nat) : phases ticket (events ++ [event]) = phases ticket events := by
    rw [phases_snoc, hphase]
    exact List.append_nil _
  refine ⟨h.stages, hsubmitted ▸ h.submitted, fun ticket => ?_, fun ticket => ?_⟩
  · rw [hphases]
    exact h.fresh ticket
  · rw [hphases, hsubmitted]
    exact h.history ticket

theorem Traced.step (h : Traced events p) (hstep : Step p event p') :
    Traced (events ++ [event]) p' := by
  cases hstep with
  | submit => exact h.submit _
  | work hrequest hstage _ hwork => exact h.work hrequest hstage hwork
  | file =>
      have hquiet : Traced (events ++ [.file]) p := h.quiet rfl fun _ => rfl
      exact ⟨hquiet.stages, hquiet.submitted, hquiet.fresh, hquiet.history⟩
  | @release ticket =>
      have hquiet : Traced (events ++ [.release ticket]) p := h.quiet rfl fun _ => rfl
      exact ⟨hquiet.stages, hquiet.submitted, hquiet.fresh, hquiet.history⟩

/-! ## Which tickets are pending -/

/-- The tickets that are pending: all but the one that is being filed and some that the workers
have left. -/
structure Noted (p : Pool) : Prop where
  nodup : p.queue.pending.Nodup
  known : ∀ ticket ∈ p.queue.pending, ticket < p.stages.length
  filing : ∀ ticket, p.filing = some ticket → ticket < p.stages.length ∧ ticket ∉ p.queue.pending
  kept : ∀ ticket stage, p.stages[ticket]? = some stage → stage ≠ .left →
    ticket ∈ p.queue.pending ∨ p.filing = some ticket
  workers : p.stages ≠ [] → 0 < p.queue.config.maxParallel

theorem Noted.submit (h : Noted p) (hstages : p.stages.length = p.queue.requests.length)
    (hunlocked : p.filing = none) (hworkers : 0 < p.queue.config.maxParallel) (r : Request) :
    Noted (p.submit r) := by
  refine ⟨h.nodup, fun t ht => ?_, fun t ht => ?_, fun t stage hstage hopen => ?_,
    fun _ => hworkers⟩
  · have hlt := h.known t ht
    simp only [Pool.stages_submit, List.length_append]
    omega
  · obtain rfl := Option.some.inj ht
    refine ⟨by simp [hstages], fun hmem => ?_⟩
    have hlt := h.known _ hmem
    omega
  · by_cases ht : t < p.stages.length
    · rw [Pool.stages_submit, List.getElem?_append_left ht] at hstage
      rcases h.kept t stage hstage hopen with hmem | hfiling
      · exact .inl hmem
      · rw [hunlocked] at hfiling
        cases hfiling
    · -- Only the ticket that is being filed is new.
      obtain ⟨hlt, -⟩ := List.getElem?_eq_some_iff.mp hstage
      simp only [Pool.stages_submit, List.length_append, List.length_singleton] at hlt
      exact .inr (congrArg some (by omega))

theorem Noted.file (h : Noted p) (hfiling : p.filing = some ticket) :
    Noted (p.file ticket) := by
  obtain ⟨hlt, hnew⟩ := h.filing ticket hfiling
  refine ⟨?_, fun t ht => ?_, nofun, fun t stage hstage hopen => ?_, h.workers⟩
  · refine List.nodup_append.mpr ⟨h.nodup, List.nodup_singleton _, fun t ht t' ht' heq => ?_⟩
    obtain rfl := List.mem_singleton.mp ht'
    exact hnew (heq ▸ ht)
  · rcases List.mem_append.mp ht with ht | ht
    · exact h.known t ht
    · obtain rfl := List.mem_singleton.mp ht
      exact hlt
  · refine .inl (List.mem_append.mpr ?_)
    rcases h.kept t stage hstage hopen with hmem | heq
    · exact .inl hmem
    · rw [hfiling] at heq
      exact .inr (List.mem_singleton.mpr (Option.some.inj heq).symm)

theorem Noted.work (h : Noted p) {phase : Phase} {r r' : Request} {stage stage' : Stage}
    {q : Queue} (hstage : p.stages[ticket]? = some stage)
    (hwork : Work p.queue r phase stage q r' stage') :
    Noted (p.put ticket q r' stage') := by
  obtain ⟨session, rfl⟩ := hwork.exists_queue_eq
  have hopen : stage ≠ .left := by
    rintro rfl
    cases hwork
  refine ⟨h.nodup, fun t ht => ?_, fun t ht => ?_, fun t stage₁ hstage₁ hopen₁ => ?_,
    fun hne => h.workers ?_⟩
  · rw [Pool.stages_put, List.length_set]
    exact h.known t ht
  · rw [Pool.stages_put, List.length_set]
    exact h.filing t ht
  · by_cases ht : ticket = t
    · exact h.kept t stage (ht ▸ hstage) hopen
    · exact h.kept t stage₁ (by rwa [Pool.stages_put, List.getElem?_set_ne ht] at hstage₁) hopen₁
  · rintro hnil
    simp [hnil] at hne

theorem Noted.release (h : Noted p) (hunlocked : p.filing = none)
    (hleft : p.stages[ticket]? = some .left) :
    Noted (p.release ticket) := by
  refine ⟨h.nodup.filter _, fun t ht => h.known t (List.mem_filter.mp ht).1, fun t ht => ?_,
    fun t stage hstage hopen => ?_, h.workers⟩
  · have hfiling : p.filing = some t := ht
    rw [hunlocked] at hfiling
    cases hfiling
  · rcases h.kept t stage hstage hopen with hmem | hfiling
    · refine .inl (List.mem_filter.mpr ⟨hmem, ?_⟩)
      have hne : t ≠ ticket := by
        rintro rfl
        exact hopen (Option.some.inj (hstage.symm.trans hleft))
      simpa using hne
    · exact .inr hfiling

theorem Noted.step (h : Noted p) (htraced : Traced events p) (hstep : Step p event p') :
    Noted p' := by
  cases hstep with
  | submit hunlocked hworkers => exact h.submit htraced.stages hunlocked hworkers _
  | file hfiling => exact h.file hfiling
  | work _ hstage _ hwork => exact h.work hstage hwork
  | release hunlocked hleft => exact h.release hunlocked hleft

/-- Every run from a queue without requests keeps both invariants. -/
theorem Run.sound {q : Queue} (hrequests : q.requests = []) (hpending : q.pending = [])
    (hrun : Run { queue := q } events p) : Traced events p ∧ Noted p := by
  induction hrun with
  | nil =>
      constructor
      · exact ⟨by simp [hrequests], by simp [hrequests, submitted], fun _ _ => rfl, by simp⟩
      · exact ⟨by simp [hpending], by simp [hpending], nofun, by simp, nofun⟩
  | snoc _ hstep ih => exact ⟨ih.1.step hstep, ih.2.step ih.1 hstep⟩

/-! ## The count -/

theorem Queue.isCompleted_of_request? {q : Queue} {r : Request}
    (h : q.request? ticket = some r) : q.isCompleted ticket = (r.state == .completed) := by
  simp only [isCompleted, h]

theorem Queue.countP_range (q : Queue) :
    (List.range q.requests.length).countP (fun ticket => !q.isCompleted ticket)
      = q.unfinished.length := by
  have hrange : List.range q.requests.length
      = (List.finRange q.requests.length).map Fin.val := by simp
  rw [unfinished, ← List.countP_eq_length_filter, hrange, List.countP_map]
  conv_rhs => rw [← List.map_get_finRange q.requests, List.countP_map]
  refine List.countP_congr fun i _ => ?_
  have hr : q.request? i = some (q.requests.get i) := List.getElem?_eq_getElem i.isLt
  simp only [Function.comp_apply, isCompleted_of_request? hr]
  rfl

theorem Traced.isCompleted_of_left (h : Traced events p)
    (hleft : p.stages[ticket]? = some .left) : p.queue.isCompleted ticket = true := by
  have hlt : ticket < p.queue.requests.length :=
    h.stages ▸ (List.getElem?_eq_some_iff.mp hleft).1
  have hrequest : p.queue.request? ticket = some p.queue.requests[ticket] :=
    List.getElem?_eq_getElem hlt
  obtain ⟨r₀, -, hhistory⟩ := h.history ticket _ _ hrequest hleft
  rw [Queue.isCompleted_of_request? hrequest, hhistory.completed_iff.mpr (.inr rfl)]
  rfl

theorem countPending_eq (htraced : Traced events p) (hnoted : Noted p)
    (hunlocked : p.filing = none) : p.queue.countPending = p.queue.unfinished.length := by
  rw [← Queue.countP_range, List.countP_eq_length_filter, Queue.countPending]
  refine (List.Perm.length_eq ?_)
  refine (List.perm_ext_iff_of_nodup (hnoted.nodup.filter _) (List.nodup_range.filter _)).mpr
    fun t => ?_
  simp only [List.mem_filter, List.mem_range, ← htraced.stages]
  refine and_congr_left fun hopen => ⟨hnoted.known t, fun hlt => ?_⟩
  have hstage : p.stages[t]? = some p.stages[t] := List.getElem?_eq_getElem hlt
  have hne : p.stages[t] ≠ .left := by
    intro hleft
    rw [htraced.isCompleted_of_left (hleft ▸ hstage)] at hopen
    cases hopen
  rcases hnoted.kept t _ hstage hne with hmem | hfiling
  · exact hmem
  · rw [hunlocked] at hfiling
    cases hfiling

/-! ## Waiting -/

theorem Run.stays_left (hrun : Run p events p') (h : p.stages[ticket]? = some .left) :
    p'.stages[ticket]? = some .left := by
  induction hrun with
  | nil => exact h
  | snoc _ hstep ih =>
      cases hstep with
      | submit =>
          rw [Pool.stages_submit, List.getElem?_append_left (List.getElem?_eq_some_iff.mp ih).1]
          exact ih
      | file | release => exact ih
      | @work ticket' _ _ _ stage _ _ _ hstage _ hwork =>
          have hne : ticket' ≠ ticket := by
            rintro rfl
            obtain rfl := Option.some.inj (hstage.symm.trans ih)
            cases hwork
          rw [Pool.stages_put, List.getElem?_set_ne hne]
          exact ih

/-- When a wait ends, what was put in before it is completed. -/
theorem Run.isCompleted {events₀ : List Event} (hrun : Run p events p')
    (htraced : Traced events₀ p) (hnoted : Noted p) (hunlocked : p.filing = none)
    (htraced' : Traced (events₀ ++ events) p') (hawaited : Awaited p p')
    (hlt : ticket < p.queue.requests.length) : p'.queue.isCompleted ticket = true := by
  have hknown : ticket < p.stages.length := htraced.stages ▸ hlt
  have hstage : p.stages[ticket]? = some p.stages[ticket] := List.getElem?_eq_getElem hknown
  refine htraced'.isCompleted_of_left ?_
  by_cases hleft : p.stages[ticket] = .left
  · exact hrun.stays_left (hleft ▸ hstage)
  · rcases hnoted.kept ticket _ hstage hleft with hmem | hfiling
    · exact hawaited ticket hmem
    · rw [hunlocked] at hfiling
      cases hfiling

theorem sum_map_set {stages : List Stage} {stage : Stage} (stage' : Stage)
    (h : stages[ticket]? = some stage) :
    ((stages.set ticket stage').map Stage.remaining).sum + stage.remaining
      = (stages.map Stage.remaining).sum + stage'.remaining := by
  induction stages generalizing ticket with
  | nil => cases h
  | cons first rest ih =>
      cases ticket with
      | zero =>
          obtain rfl := Option.some.inj h
          simp only [List.set_cons_zero, List.map_cons, List.sum_cons]
          omega
      | succ ticket =>
          have hrest := ih h
          simp only [List.set_cons_succ, List.map_cons, List.sum_cons]
          omega

/-- Four steps are to be done for every request, one after the other. -/
theorem Run.remaining (hrun : Run p events p') :
    p'.remaining + events.countP Event.isWork
      = p.remaining + 4 * (submitted events).length := by
  induction hrun with
  | nil => rfl
  | snoc _ hstep ih =>
      rw [List.countP_append, submitted_snoc, List.length_append]
      cases hstep with
      | submit =>
          simp only [Pool.remaining, Pool.stages_submit, List.map_append, List.sum_append] at ih ⊢
          simp only [List.map_cons, List.map_nil, List.sum_cons, List.sum_nil, Stage.remaining,
            List.countP_singleton, Event.isWork, Event.request?, Option.toList_some,
            List.length_singleton, Bool.false_eq_true, if_false]
          omega
      | file =>
          simpa [Event.isWork, Event.request?, Pool.remaining, Pool.stages_file] using ih
      | release =>
          simpa [Event.isWork, Event.request?, Pool.remaining, Pool.stages_release] using ih
      | @work _ _ _ _ _ stage' _ _ hstage _ hwork =>
          have hsum := sum_map_set stage' hstage
          have hone := hwork.remaining
          simp only [Pool.remaining, Pool.stages_put] at ih ⊢
          simp only [List.countP_singleton, Event.isWork, Event.request?, Option.toList_none,
            List.length_nil, if_true]
          omega

theorem exists_work_of_isBusy {stage : Stage} (htraced : Traced events p)
    (hstage : p.stages[ticket]? = some stage) (hbusy : stage.isBusy = true) :
    ∃ phase p', Step p (.work ticket phase) p' := by
  have hlt : ticket < p.queue.requests.length :=
    htraced.stages ▸ (List.getElem?_eq_some_iff.mp hstage).1
  have hrequest : p.queue.request? ticket = some p.queue.requests[ticket] :=
    List.getElem?_eq_getElem hlt
  cases stage with
  | waiting | left => cases hbusy
  | running => exact ⟨_, _, .work hrequest hstage nofun (.exchange {})⟩
  | answered outcome => exact ⟨_, _, .work hrequest hstage nofun .complete⟩
  | completed => exact ⟨_, _, .work hrequest hstage nofun .leave⟩

/-- As long as the workers have not left a request, one of them can go on. -/
theorem exists_work {stage : Stage} (htraced : Traced events p) (hnoted : Noted p)
    (hstage : p.stages[ticket]? = some stage) (hopen : stage ≠ .left) :
    ∃ ticket phase p', Step p (.work ticket phase) p' := by
  by_cases hbusy : stage.isBusy = true
  · exact ⟨ticket, exists_work_of_isBusy htraced hstage hbusy⟩
  · have hwaiting : stage = .waiting := by
      cases stage with
      | waiting => rfl
      | left => exact absurd rfl hopen
      | running | answered | completed => exact absurd rfl hbusy
    subst hwaiting
    have hlt := (List.getElem?_eq_some_iff.mp hstage).1
    by_cases hfree : (p.busy : Int) < p.queue.config.maxParallel
    · have hknown : ticket < p.queue.requests.length := htraced.stages ▸ hlt
      have hrequest : p.queue.request? ticket = some p.queue.requests[ticket] :=
        List.getElem?_eq_getElem hknown
      exact ⟨ticket, _, _, .work hrequest hstage (fun _ => hfree) .start⟩
    · -- All workers are busy, and there is at least one.
      have hworkers := hnoted.workers (List.ne_nil_of_length_pos (Nat.zero_lt_of_lt hlt))
      have hsome : 0 < p.stages.countP Stage.isBusy := by
        have hbound : p.queue.config.maxParallel ≤ (p.busy : Int) := Int.not_lt.mp hfree
        rw [Pool.busy] at hbound
        omega
      obtain ⟨stage, hmem, hbusy⟩ := List.countP_pos_iff.mp hsome
      obtain ⟨ticket, hstage⟩ := List.mem_iff_getElem?.mp hmem
      exact ⟨ticket, exists_work_of_isBusy htraced hstage hbusy⟩

/-! ## Every interleaving -/

/-- In every run from a queue without requests:

* while the queue is not locked, the number of pending requests is the number of requests that were
  put in and are not completed;
* every request that was put in is executed at most once and in order, and if it is completed, it
  was executed and all its hooks ran, once each;
* when a wait for the requests that are pending now ends, all requests that were put in before are
  completed, and none is pending unless one was put in meanwhile;
* until it ends the workers can go on, and they cannot do so forever. -/
theorem pending_count_exact {q : Queue} (hrequests : q.requests = []) (hpending : q.pending = [])
    (hrun : Run { queue := q } events p) :
    (p.filing = none → p.queue.countPending = p.queue.unfinished.length)
    ∧ (submitted events).length = p.queue.requests.length
    ∧ (∀ ticket r, p.queue.request? ticket = some r →
        ∃ r₀, (submitted events)[ticket]? = some r₀ ∧ ExecutedOnce r₀ (phases ticket events) r)
    ∧ (p.filing = none → ∀ events' p', Run p events' p' →
        (Awaited p p' →
          (∀ ticket < p.queue.requests.length, p'.queue.isCompleted ticket = true)
          ∧ (submitted events' = [] → p'.queue.countPending = 0))
        ∧ (Awaited p p' ∨ ∃ ticket phase p'', Step p' (.work ticket phase) p'')
        ∧ events'.countP Event.isWork ≤ p.remaining + 4 * (submitted events').length) := by
  obtain ⟨htraced, hnoted⟩ := hrun.sound hrequests hpending
  refine ⟨countPending_eq htraced hnoted, htraced.submitted, fun ticket r hrequest => ?_,
    fun hunlocked events' p' hrun' => ?_⟩
  · have hlt := htraced.stages ▸ (List.getElem?_eq_some_iff.mp hrequest).1
    obtain ⟨r₀, hr₀, hhistory⟩ :=
      htraced.history ticket r _ hrequest (List.getElem?_eq_getElem hlt)
    exact ⟨r₀, hr₀, hhistory.executedOnce⟩
  obtain ⟨htraced', hnoted'⟩ := (hrun.append hrun').sound hrequests hpending
  refine ⟨fun hawaited => ?_, ?_, ?_⟩
  · have hall : ∀ ticket < p.queue.requests.length, p'.queue.isCompleted ticket = true :=
      fun ticket hlt => hrun'.isCompleted htraced hnoted hunlocked htraced' hawaited hlt
    refine ⟨hall, fun hnone => ?_⟩
    -- No ticket is new, so every one that is pending was there when the wait began.
    have hsame : p'.stages.length = p.queue.requests.length := by
      rw [htraced'.stages, ← htraced'.submitted, submitted_append, hnone, List.append_nil,
        htraced.submitted]
    refine List.length_eq_zero_iff.mpr (List.filter_eq_nil_iff.mpr fun ticket hticket => ?_)
    simp [hall ticket (hsame ▸ hnoted'.known ticket hticket)]
  · refine or_iff_not_imp_left.mpr fun hopen => ?_
    rw [Awaited] at hopen
    push Not at hopen
    obtain ⟨ticket, hmem, hne⟩ := hopen
    have hlt : ticket < p'.stages.length := by
      have hknown := hnoted.known ticket hmem
      have hgrown : (submitted (events ++ events')).length = p'.queue.requests.length :=
        htraced'.submitted
      rw [submitted_append, List.length_append, htraced.submitted, ← htraced.stages,
        ← htraced'.stages] at hgrown
      omega
    have hstage := List.getElem?_eq_getElem hlt
    exact exists_work htraced' hnoted' hstage fun hleft => hne (hleft ▸ hstage)
  · have hsteps := hrun'.remaining
    omega

/-- Two requests and two workers: the first request, one of whose hooks fails, is given up before
its ticket is noted, and the second one is being executed when a wait begins. -/
theorem pending_count_exact_interleaved :
    let q : Queue := {
      config := { maxParallel := 2 }
      session := { replies := [.failure (.foreign .unusable)] } }
    let first : Request := { hooks := [.failing .unusable, .notify "end"] }
    ∃ p,
      Run { queue := q }
        [.submit first, .work 0 .start, .work 0 (.exchange {}), .work 0 .complete, .file,
          .submit {}, .work 1 .start, .file] p
      ∧ p.queue.countPending = 1
      ∧ (∃ r, p.queue.request? 0 = some r
        ∧ r.runs.map HookRun.hook = [.failing .unusable, .notify "end"])
      ∧ ∃ p',
        Run p [.work 1 (.exchange {}), .work 0 .leave, .work 1 .complete, .release 0,
          .work 1 .leave] p'
        ∧ p'.queue.countPending = 0 := by
  intro q first
  have hbefore : Run { queue := q }
      [.submit first, .work 0 .start, .work 0 (.exchange {}), .work 0 .complete, .file,
        .submit {}, .work 1 .start, .file] _ :=
    .cons (.submit rfl (by decide)) <|
    .cons (.work rfl rfl (fun _ => by decide) .start) <|
    .cons (.work rfl rfl nofun (.exchange {})) <|
    .cons (.work rfl rfl nofun .complete) <|
    .cons (.file rfl) <|
    .cons (.submit rfl (by decide)) <|
    .cons (.work rfl rfl (fun _ => by decide) .start) <|
    .cons (.file rfl) .nil
  obtain ⟨hcount, -, -, hwait⟩ := pending_count_exact rfl rfl hbefore
  refine ⟨_, hbefore, (hcount rfl).trans rfl, ⟨_, rfl, rfl⟩, ?_⟩
  have hend {p' : Pool} (hafter : Run _ [.work 1 (.exchange {}), .work 0 .leave,
      .work 1 .complete, .release 0, .work 1 .leave] p') (hawaited : Awaited _ p') :=
    And.intro hafter (((hwait rfl _ p' hafter).1 hawaited).2 rfl)
  refine ⟨_, hend
    (.cons (.work rfl rfl nofun (.exchange {})) <|
    .cons (.work rfl rfl nofun .leave) <|
    .cons (.work rfl rfl nofun .complete) <|
    .cons (.release rfl rfl) <|
    .cons (.work rfl rfl nofun .leave) .nil) fun ticket hmem => ?_⟩
  have hpending : ticket ∈ [0, 1] := hmem
  have hticket : ticket = 0 ∨ ticket = 1 := by simpa using hpending
  rcases hticket with rfl | rfl <;> rfl

end QueryClient.Http
