import QueryClient.Proofs.Connection.Running
import QueryClient.Proofs.Connection.Sending
import QueryClient.Proofs.Files.OpenFile
import QueryClient.Proofs.Http.ResultSink

/-!
# What a result file holds

A select with a result file opens the file, hands the body of the answer on piece by piece, and
closes the file when the request completes. However receiving ends, the file then holds the pieces
that had arrived.
-/

namespace QueryClient

open Files (ExternalTable ResultFile)
open Gzip (Compressor Content)
open Http (Exchanged Hook Queue Request ResultSink cargo isSuccess)

/-! ## Received pieces -/

/-- The pieces of a body that arrive for a request and are not empty: none without an answer, or with
one that is no success. -/
def Http.Queue.received (q : Queue) (store : Files.Store) (r : Request) : List (List UInt8) :=
  match cargo store q.config.chunkSize r with
  | .error _ => []
  | .ok data =>
    match (q.session.send (r.carrying data)).2 with
    | .failure _ => []
    | .answer a =>
      if isSuccess a.status then Request.solid (a.chunks q.config.chunkSize) else []

/-- A request that passes everything on passes on what arrives. -/
theorem Http.Exchanged.passed_eq {q : Queue} {store : Files.Store} {r : Request}
    {passed : List (List UInt8)} {outcome : Except Http.Disruption Http.Response}
    (hstreamed : r.isStreamed = true) (hlimit : r.limit = none) :
    Exchanged q store r passed outcome → passed = q.received store r := by
  have hkept {a : Http.Answer} (h : r.isStreamed = false ∨ isSuccess a.status = false) :
      isSuccess a.status = false := by
    rcases h with h | h
    · rw [hstreamed] at h; cases h
    · exact h
  intro h
  cases h with
  | unread hdata => simp only [Queue.received, hdata]
  | unanswered hdata hreply => simp only [Queue.received, hdata, hreply]
  | keptBroken hdata hreply h hbroken =>
      simp only [Queue.received, hdata, hreply, hkept h, Bool.false_eq_true, ↓reduceIte]
  | kept hdata hreply h hwhole =>
      simp only [Queue.received, hdata, hreply, hkept h, Bool.false_eq_true, ↓reduceIte]
  | refused hdata hreply hpassed hrefused =>
      rw [Request.refusal, hlimit] at hrefused
      cases hrefused
  | passedBroken hdata hreply hpassed htaken hbroken =>
      simp only [Queue.received, hdata, hreply, hpassed.2, ↓reduceIte]
  | passed hdata hreply hpassed htaken hwhole =>
      simp only [Queue.received, hdata, hreply, hpassed.2, ↓reduceIte]

/-! ## Requests with a result file -/

/-- The answer goes to a sink for a new file, which is closed once and for all. -/
structure Http.Request.FillsFile (r : Request) (place : List String) (number : Nat) (gzip : Bool)
    (deflater : Compressor (List (List UInt8))) : Prop where
  sink : r.sink = some { ResultSink.begin place gzip deflater with number }
  download : r.download = none
  limit : r.limit = none
  hooks : r.allHooks.count .closeSink = 1
  runs : r.runs = []

/-- The request has been completed. Its sink was closed by one hook, and what was written to the file
stands for the data. -/
structure Http.Request.HasFilled (r : Request) (sink : ResultSink) (gzip : Bool)
    (data : List UInt8) : Prop where
  state : r.state = .completed
  closings : (r.runs.map (·.hook)).count .closeSink = 1
  final : r.sink = some sink
  closed : sink.closed = true
  holds : sink.content.Holds gzip data

namespace Http.Request.FillsFile

variable {r : Request} {place : List String} {number : Nat} {gzip : Bool}
  {deflater : Compressor (List (List UInt8))}

theorem isStreamed (h : r.FillsFile place number gzip deflater) : r.isStreamed = true := by
  simp only [Request.isStreamed, h.sink, Option.isSome_some, Bool.or_true]

theorem mem_allHooks (h : r.FillsFile place number gzip deflater) : Hook.closeSink ∈ r.allHooks := by
  rw [← List.count_pos_iff, h.hooks]
  exact Nat.one_pos

/-- However the execution of the request goes, the file has what arrived. -/
theorem execute (h : r.FillsFile place number gzip deflater) (hdeflater : deflater.WritesStream)
    (q : Queue) (store : Files.Store) :
    ∃ sink, (q.execute store r).2.1.HasFilled sink gzip (q.received store r).flatten
      ∧ sink.target = (place, number) := by
  obtain ⟨passed, outcome, hexchanged, hr⟩ := q.exists_execute_eq store r
  rw [← hexchanged.passed_eq h.isStreamed h.limit, hr, Request.complete_eq]
  have hallHooks : (r.markExecuting.handed passed).allHooks = r.allHooks := rfl
  have hfilled : (r.markExecuting.handed passed).sink
      = some (passed.foldl .append { ResultSink.begin place gzip deflater with number }) := by
    simp only [Request.handed, Request.filled, Request.markExecuting, h.download, h.sink,
      Option.isSome_none, Bool.false_eq_true, ↓reduceIte, Option.map_some]
  have hruns : (r.markExecuting.handed passed).runs = [] := h.runs
  refine ⟨_, ⟨rfl, ?_, ?_, ResultSink.closed_close _,
    ResultSink.holds_close hdeflater place gzip number passed⟩, ?_⟩
  · simp only [hruns, List.nil_append, List.map_map, hallHooks]
    exact (congrArg (List.count _) (List.map_id _)).trans h.hooks
  · simp only [hallHooks, Request.closing, h.mem_allHooks, ↓reduceIte, hfilled, Option.map_some]
  · rw [ResultSink.target_close, ResultSink.target_foldl_append]
    rfl

end Http.Request.FillsFile

namespace Connection

variable {c c₁ : Connection} {sql bindings : Value} {tables : List ExternalTable} {file : ResultFile}
  {r : Request} {name : String} {place : List String} {number : Nat}

/-- A select with a result file opens the file and makes a request that fills it. -/
theorem reading_fillsFile (h : c.reading sql bindings tables (some file) = .ok (c₁, r)) :
    ∃ place number, c₁.store.Leads file.file place number []
      ∧ r.FillsFile place number file.gzip c.deflater := by
  obtain ⟨s, -, h⟩ := ok_of_bind h
  obtain ⟨⟨c₂, r₂, s₂⟩, hread, h⟩ := ok_of_bind h
  cases h
  obtain ⟨url, place, -, hplace, rfl, rfl⟩ := readRequest_file_eq_ok hread
  have hblank := c.newRequest_blank
  refine ⟨place, _, Files.Store.leads_openEmpty hplace, rfl, hblank.download, hblank.limit, ?_,
    hblank.runs⟩
  simp only [Request.allHooks, unopened]
  cases c.listener <;> rfl

theorem leads_settle {d : Connection} {sink : ResultSink} (hsink : r.sink = some sink)
    (hclosed : sink.closed = true) (htarget : sink.target = (place, number))
    (h : d.store.Leads name place number []) :
    (d.settle r).store.Leads name place number sink.content := by
  have hwritten : (d.settle r).store = d.store.write place number sink.content := by
    simp only [ResultSink.target, Prod.mk.injEq] at htarget
    simp only [settle, hsink, hclosed, ↓reduceIte, htarget.1, htarget.2]
  rw [hwritten]
  have hover := h.write sink.content
  rwa [Content.overwriting_nil] at hover

/-- The result file of a select is opened, which empties it. Whenever the request is then run, and
however receiving ends, it completes, the file is closed once, and it holds what was received, unless
something else has become of it in between. A select that is not put off reads so in any case. All of
this is so for every compressor, whenever it gives out what it was fed. -/
theorem result_file_holds_received (hdeflater : c.deflater.WritesStream)
    (hmade : c.reading sql bindings tables (some file) = .ok (c₁, r)) :
    ∃ place number, c₁.store.Leads file.file place number []
      ∧ (∀ d d' r', Runs d r d' r' →
        ∃ sink, r'.HasFilled sink file.gzip (d.queue.received d.store r).flatten
          ∧ (d.store.Leads file.file place number [] →
            d'.store.content file.file = .ok sink.content))
      ∧ ∃ content, (c.select sql bindings tables (some file)).1.store.content file.file = .ok content
        ∧ content.Holds file.gzip (c₁.queue.received c₁.store r).flatten := by
  obtain ⟨place, number, hleads, hfills⟩ := reading_fillsFile hmade
  have hrun : ∀ d d' r', Runs d r d' r' →
      ∃ sink, r'.HasFilled sink file.gzip (d.queue.received d.store r).flatten
        ∧ (d.store.Leads file.file place number [] →
          d'.store.content file.file = .ok sink.content) := by
    intro d d' r' hruns
    obtain ⟨hr, hstore, -⟩ := hruns.eq_execute
    obtain ⟨sink, hfilled, htarget⟩ := hfills.execute hdeflater d.queue d.store
    refine ⟨sink, by rw [hr]; exact hfilled, fun h => ?_⟩
    have hsettled := leads_settle hfilled.final hfilled.closed htarget h
    rw [← hstore] at hsettled
    exact hsettled.content_eq
  refine ⟨place, number, hleads, hrun, ?_⟩
  obtain ⟨sink, hfilled, hcontent⟩ := hrun c₁ _ _ .atOnce
  have hafter := Sending.after_eq
    (show (Sending.select tables (some file)).request c sql bindings = .ok (c₁, r) from hmade)
  exact ⟨sink.content, by rw [← hcontent hleads]; exact congrArg (·.store.content file.file) hafter,
    hfilled.holds⟩

/-- A connection whose next answer breaks off behind three pieces, one of them empty. Its compressor
holds back what it was fed last. -/
def interrupted : Connection where
  queue.session.replies :=
    [.answer { pieces := some [[1], [], [2, 3]], breakdown := some (.foreign .wrongKind) }]
  deflater := .remembering .trailing

def compressedFile : ResultFile :=
  ⟨"out.csv.gz", "CSV", true⟩

theorem result_file_holds_received_interrupted :
    interrupted.deflater.WritesStream
      ∧ ∃ c₁ r, interrupted.reading (.text "select 1") .null [] (some compressedFile) = .ok (c₁, r)
        ∧ ∃ content,
          (interrupted.select (.text "select 1") .null [] (some compressedFile)).1.store.content
              compressedFile.file = .ok content
            ∧ content.Holds true [1, 2, 3] := by
  have hdeflater : interrupted.deflater.WritesStream :=
    Compressor.trailing_writesStream.remembering
  have hreceived : (interrupted.reading (.text "select 1") .null [] (some compressedFile)).map
      (fun made => made.1.queue.received made.1.store made.2) = .ok [[1], [2, 3]] := rfl
  refine ⟨hdeflater, ?_⟩
  cases hmade : interrupted.reading (.text "select 1") .null [] (some compressedFile) with
  | error fault => rw [hmade] at hreceived; cases hreceived
  | ok made =>
      rw [hmade] at hreceived
      have hpieces : made.1.queue.received made.1.store made.2 = [[1], [2, 3]] :=
        Except.ok.inj hreceived
      obtain ⟨place, number, -, -, content, hcontent, hholds⟩ :=
        result_file_holds_received hdeflater hmade
      rw [hpieces] at hholds
      exact ⟨made.1, made.2, rfl, content, hcontent, hholds⟩

end Connection

end QueryClient
