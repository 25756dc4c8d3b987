import RlmApi.CallSpecs
import RlmApi.WorkerTasks

/-!
# The calls of a poll cycle

Which calls `_poll_cycle` makes, and when. It settles the claim that it received last
and no other, takes the next claim only after the heartbeat loop of the last one has
ended, and goes through the phases of a delivery in order. None of this rests on what
the calls end with: any of them may raise, and any that suspends may be interrupted.

The record is what the cycle knows of its own worker. Its phase runs ahead of the
cycle by nothing: a call that raises leaves the delivery where the next call of the
cycle finds it.
-/

namespace RlmApi

open Coroutine Worker RunStore

/-- The claim a worker received last, its phase of a delivery, and whether the heartbeat
loop it started last has ended. -/
structure PollRecord where
  latest : Option ClaimedRun
  phase : DeliveryPhase
  heartbeatDone : Bool

namespace DeliveryPhase

/-- The phase when a write of the memory was answered, or was not. -/
def afterWrite (answered : Bool) : DeliveryPhase → DeliveryPhase
  | .claimed item => if answered then .written item else .undelivered item
  | phase => phase

theorem afterWrite_claimed {phase : DeliveryPhase} {item : SummaryOutboxItem}
    (claimed : phase = .claimed item) (answered : Bool) :
    phase.afterWrite answered = if answered then .written item else .undelivered item := by
  rw [claimed]
  rfl

/-- The phase after a call of the cycle. -/
def afterCall (phase : DeliveryPhase) :
    (call : WorkerCall) → Except Raised call.Answer → DeliveryPhase
  | .claimSummary _ _, .ok (some item) => .claimed item
  | .claimSummary _ _, _ => .idle
  | .writeMemory _, outcome => phase.afterWrite outcome.isOk
  | .completeSummary _, .ok _ => .idle
  | .completeSummary item, .error _ => .undelivered item
  | .retrySummary _ _, _ => .idle
  | _, _ => phase

end DeliveryPhase

namespace PollRecord

/-- When a cycle of the worker makes its calls. -/
def Requires (workerId : Str) (embedding : Str × Int) (record : PollRecord) :
    WorkerCall → Prop
  | .claimSummary owner _ => owner = workerId ∧ record.phase = .idle
  | .writeMemory arguments => ∃ item, record.phase = .claimed item ∧
      Delivery.matchesEmbedding embedding item = true ∧ arguments = summaryMemory item
  | .completeSummary item => record.phase = .written item
  | .retrySummary item publicError =>
      (record.phase = .claimed item ∧ Delivery.matchesEmbedding embedding item = false ∧
        publicError = lit "embedding_configuration_mismatch") ∨
      (record.phase = .undelivered item ∧ publicError = lit "summary_delivery_failed")
  | .claim owner => owner = workerId ∧ record.heartbeatDone = true
  | .start run _ _ _ => record.latest = some run
  | .succeed run report => record.latest = some run ∧ NormalFields report.summaryMetadata
  | .fail run _ _ _ => record.latest = some run
  | .monotonic | .recoverStale _ _ | .awaitExecution | .stop _ | .leaseLost => True

/-- Making a call. -/
def begin (record : PollRecord) : WorkerCall → PollRecord
  | .start _ _ _ _ => { record with heartbeatDone := false }
  | _ => record

/-- The claim received last, after a call. A claim that raises may have been made. -/
def LatestAfter (record : PollRecord) (latest : Option ClaimedRun) :
    (call : WorkerCall) → Except Raised call.Answer → Prop
  | .claim _, .ok (some run) => latest = some run
  | .claim _, _ => True
  | _, _ => latest = record.latest

/-- How a call may end. -/
structure Ends (record : PollRecord) (call : WorkerCall) (outcome : Except Raised call.Answer)
    (after : PollRecord) : Prop where
  latest : record.LatestAfter after.latest call outcome
  phase : after.phase = record.phase.afterCall call outcome
  heartbeatDone : record.heartbeatDone = true → after.heartbeatDone = true
  stopped : call = .stop .heartbeat → after.heartbeatDone = true
  /-- What does not suspend does not raise. -/
  returned : call.suspends = false → outcome.isOk = true

/-- The cycle holds a claim. -/
def Holds (run : ClaimedRun) (record : PollRecord) : Prop := record.latest = some run

/-- Between two claims: nothing is being delivered, and no heartbeat loop is left. -/
structure Between (record : PollRecord) : Prop where
  phase : record.phase = .idle
  heartbeatDone : record.heartbeatDone = true

end PollRecord

/-- The calls of a worker's poll cycle. -/
def pollSpec (workerId : Str) (embedding : Str × Int) :
    CallSpec WorkerCall WorkerCall.Answer Raised PollRecord :=
  ⟨PollRecord.Requires workerId embedding, PollRecord.begin, PollRecord.Ends⟩

namespace PollRecord

variable {workerId : Str} {embedding : Str × Int} {record after : PollRecord}

/-! ## Claims -/

theorem normalItems_texts (texts : List Str) : NormalItems (texts.map .str) := by
  induction texts with
  | nil => trivial
  | cons text rest inductionHypothesis => exact ⟨trivial, inductionHypothesis⟩

/-- The metadata of a reported summary is in normal form. -/
theorem normalFields_successReport {run : ClaimedRun} {latencyMs : Int}
    {prediction : RLMSubprocessResult} {recalled : List Str} {report : SuccessReport}
    (built : successReport run latencyMs prediction recalled = .ok report) :
    NormalFields report.summaryMetadata := by
  simp only [successReport, except_bind_ok_iff, pure, Except.pure, Except.ok.injEq] at built
  obtain ⟨rootModel, -, subModel, -, rfl⟩ := built
  exact ⟨trivial, normalItems_texts recalled, trivial⟩

/-- A computation that raises ends the body, and one that returns goes on. -/
theorem meets_computed {α γ : Type} {post : PollRecord → Except Raised γ → Prop}
    {result : Except PyError α} {next : α → WorkerCoroutine γ}
    (raised : ∀ error, post record (.error error))
    (rest : ∀ value, result = .ok value →
      (next value).Meets (pollSpec workerId embedding) post record) :
    (computed result >>= next).Meets (pollSpec workerId embedding) post record := by
  cases result with
  | ok value => exact rest value rfl
  | error error => exact raised error.raised

section Claim

variable {lower : Str → Str} {run : ClaimedRun}

/-- The body of `try` keeps the claim. -/
theorem meets_completeClaim (started : ℚ) (held : record.Holds run) :
    (completeClaim run started).Meets (pollSpec workerId embedding)
      (fun after _ => after.Holds run) record := by
  refine meets_call trivial (fun _ _ ends => ends.latest.trans held) (fun _ after ends => ?_)
  replace held : after.Holds run := ends.latest.trans held
  refine meets_call trivial (fun _ _ ends => ends.latest.trans held) (fun _ later ends => ?_)
  replace held : later.Holds run := ends.latest.trans held
  refine meets_computed (fun _ => held) (fun prediction _ => ?_)
  refine meets_computed (fun _ => held) (fun report built => ?_)
  refine meets_call ⟨held, normalFields_successReport built⟩
    (fun _ _ ends => ends.latest.trans held) (fun _ last ends => ?_)
  replace held : last.Holds run := ends.latest.trans held
  exact ⟨trivial, fun _ _ ends => ends.latest.trans held⟩

theorem meets_recordFailure (publicError : String) (exceptionType : Str) (retryable : Bool)
    (held : record.Holds run) :
    (recordFailure run publicError exceptionType retryable).Meets (pollSpec workerId embedding)
      (fun after _ => after.Holds run) record :=
  meets_call held (fun _ _ ends => ends.latest.trans held)
    (fun _ _ ends => ends.latest.trans held)

/-- The handlers speak of the same claim. -/
theorem meets_claimHandler (error : Raised) (held : record.Holds run) :
    (claimHandler lower run error).Meets (pollSpec workerId embedding)
      (fun after _ => after.Holds run) record := by
  unfold claimHandler
  split
  · exact meets_recordFailure _ _ _ held
  · split
    · refine meets_call trivial (fun _ _ ends => ends.latest.trans held)
        (fun lost after ends => ?_)
      replace held : after.Holds run := ends.latest.trans held
      cases lost <;> exact held
    · split
      · exact meets_recordFailure _ _ _ held
      · exact held

/-- After the cleanup no heartbeat loop is left, whatever came of it. -/
theorem meets_stopTasks :
    stopTasks.Meets (pollSpec workerId embedding) (fun after _ => after.heartbeatDone = true)
      record := by
  refine meets_call trivial (fun _ _ ends => ends.stopped rfl) (fun _ after ends => ?_)
  have stopped := ends.stopped rfl
  exact ⟨trivial, fun _ _ ends => ends.heartbeatDone stopped⟩

/-- `process_claim` speaks of its claim alone, and leaves no heartbeat loop behind. -/
theorem meets_processClaim (staleSeconds : Int) (expected : Str × Int)
    (held : record.Holds run) (between : record.heartbeatDone = true) :
    (processClaim lower run staleSeconds expected).Meets (pollSpec workerId embedding)
      (fun after _ => after.heartbeatDone = true) record := by
  refine meets_call trivial (fun _ _ ends => ends.heartbeatDone between)
    (fun started after ends => ?_)
  replace held : after.Holds run := ends.latest.trans held
  refine meets_call held (fun _ _ ends => ?_) (fun _ later ends => ?_)
  · cases ends.returned rfl
  replace held : later.Holds run := ends.latest.trans held
  have guarded : (tryExcept (completeClaim run started) (claimHandler lower run)).Meets
      (pollSpec workerId embedding) (fun after _ => after.Holds run) later :=
    meets_tryExcept (meets_completeClaim started held) (fun _ _ kept => kept)
      (fun _ error kept => meets_claimHandler error kept)
  exact meets_tryFinally guarded (fun _ _ _ => meets_stopTasks)

end Claim

/-! ## Summaries -/

/-- After a delivery no heartbeat loop runs, and one that returns leaves nothing under way. -/
def Delivered {α : Type} (after : PollRecord) (outcome : Except Raised α) : Prop :=
  after.heartbeatDone = true ∧ ∀ value, outcome = .ok value → after.phase = .idle

/-- What raises leaves no heartbeat loop behind, and that is all. -/
theorem delivered_error {α : Type} {error : Raised} (between : record.heartbeatDone = true) :
    Delivered record (.error error : Except Raised α) :=
  ⟨between, fun _ impossible => by cases impossible⟩

/-- `retry_summary` is the last call of a delivery. -/
theorem meets_retrySummary {item : SummaryOutboxItem} {publicError : Str}
    (required : record.Requires workerId embedding (.retrySummary item publicError))
    (between : record.heartbeatDone = true) :
    (ask (.retrySummary item publicError) >>= fun _ => pure ()).Meets
      (pollSpec workerId embedding) (Delivered (α := Unit)) record :=
  meets_call required (fun _ _ ends => delivered_error (ends.heartbeatDone between))
    (fun _ _ ends => ⟨ends.heartbeatDone between, fun _ _ => ends.phase⟩)

/-- How the writing and the completing of a summary may end. -/
def Tried (item : SummaryOutboxItem) (after : PollRecord) (outcome : Except Raised Unit) : Prop :=
  after.heartbeatDone = true ∧
    after.phase = if outcome.isOk then .idle else .undelivered item

/-- `_deliver_summary` goes through the phases of a delivery. -/
theorem meets_deliverSummary {item : SummaryOutboxItem} (claimed : record.phase = .claimed item)
    (between : record.heartbeatDone = true) :
    (deliverSummary embedding item).Meets (pollSpec workerId embedding) Delivered record := by
  unfold deliverSummary
  split
  · next differs =>
    refine meets_retrySummary (Or.inl ⟨claimed, ?_, rfl⟩) between
    simpa [Delivery.matchesEmbedding, imp_iff_not_or] using differs
  · next same =>
    have matching : Delivery.matchesEmbedding embedding item = true := by
      simpa [Delivery.matchesEmbedding] using same
    have body : (ask (.writeMemory (summaryMemory item)) >>= fun _ =>
        ask (.completeSummary item) >>= fun _ => pure ()).Meets (pollSpec workerId embedding)
        (Tried item) record := by
      refine meets_call ⟨item, claimed, matching, rfl⟩ (fun _ after ends => ?_)
        (fun _ after ends => ?_)
      · exact ⟨ends.heartbeatDone between,
          ends.phase.trans (DeliveryPhase.afterWrite_claimed claimed false)⟩
      have written : after.phase = .written item :=
        ends.phase.trans (DeliveryPhase.afterWrite_claimed claimed true)
      replace between := ends.heartbeatDone between
      exact meets_call written (fun _ _ ends => ⟨ends.heartbeatDone between, ends.phase⟩)
        (fun _ _ ends => ⟨ends.heartbeatDone between, ends.phase⟩)
    refine meets_tryExcept body (fun after _ tried => ⟨tried.1, fun _ _ => tried.2⟩)
      (fun after error tried => ?_)
    split
    · exact delivered_error tried.1
    · split
      · exact meets_retrySummary (Or.inr ⟨tried.2, rfl⟩) tried.1
      · exact delivered_error tried.1

/-- The loop over summaries delivers one after the other. -/
theorem meets_deliverBatch {settings : Settings}
    (configured : (settings.embeddingModel, settings.embeddingDim) = embedding)
    (iterations processed : Nat) (between : record.Between) :
    (deliverBatch settings workerId iterations processed).Meets (pollSpec workerId embedding)
      Delivered record := by
  induction iterations generalizing record processed with
  | zero => exact ⟨between.heartbeatDone, fun _ _ => between.phase⟩
  | succ iterations inductionHypothesis =>
    refine meets_call ⟨rfl, between.phase⟩
      (fun _ _ ends => delivered_error (ends.heartbeatDone between.heartbeatDone))
      (fun claimed after ends => ?_)
    have stopped := ends.heartbeatDone between.heartbeatDone
    cases claimed with
    | none => exact ⟨stopped, fun _ _ => ends.phase⟩
    | some item =>
      have delivered : (deliverSummary (settings.embeddingModel, settings.embeddingDim)
          item).Meets (pollSpec workerId embedding) Delivered after :=
        configured ▸ meets_deliverSummary ends.phase stopped
      refine (meets_andThen_iff _ _ _).mpr (delivered.mono (fun later outcome ended => ?_))
      cases outcome with
      | ok value => exact inductionHypothesis _ ⟨ended.2 value rfl, ended.1⟩
      | error error => exact delivered_error ended.1

/-! ## The cycle -/

/-- The loop over runs processes one claim after the other. -/
theorem meets_executeBatch {lower : Str → Str} {settings : Settings} (iterations processed : Nat)
    (between : record.heartbeatDone = true) :
    (executeBatch lower settings workerId iterations processed).Meets
      (pollSpec workerId embedding) (fun after _ => after.heartbeatDone = true) record := by
  induction iterations generalizing record processed with
  | zero => exact between
  | succ iterations inductionHypothesis =>
    refine meets_call ⟨rfl, between⟩ (fun _ _ ends => ends.heartbeatDone between)
      (fun claimed after ends => ?_)
    replace between := ends.heartbeatDone between
    cases claimed with
    | none => exact between
    | some run =>
      refine (meets_andThen_iff _ _ _).mpr ((meets_processClaim _ _ ends.latest between).mono
        (fun later outcome stopped => ?_))
      cases outcome with
      | ok value => exact inductionHypothesis _ stopped
      | error error => exact stopped

/-- A cycle makes its calls when it may, and no heartbeat loop is left at its end. -/
theorem meets_pollCycle {lower : Str → Str} {settings : Settings}
    (configured : (settings.embeddingModel, settings.embeddingDim) = embedding)
    (lastRecovery : ℚ) (between : record.Between) :
    (pollCycle lower settings workerId lastRecovery).Meets (pollSpec workerId embedding)
      (fun after _ => after.heartbeatDone = true) record := by
  refine meets_call trivial (fun _ _ ends => ends.heartbeatDone between.heartbeatDone)
    (fun now after ends => ?_)
  replace between : after.Between :=
    ⟨ends.phase.trans between.phase, ends.heartbeatDone between.heartbeatDone⟩
  -- A recovery leaves the worker as it is.
  have recovered : (recoverIfDue settings now lastRecovery).Meets (pollSpec workerId embedding)
      (fun later _ => later.Between) after := by
    unfold recoverIfDue
    split
    · exact meets_call trivial
        (fun _ _ ends => ⟨ends.phase.trans between.phase, ends.heartbeatDone between.heartbeatDone⟩)
        (fun _ _ ends => ⟨ends.phase.trans between.phase, ends.heartbeatDone between.heartbeatDone⟩)
    · exact between
  refine (meets_andThen_iff _ _ _).mpr (recovered.mono (fun later outcome between => ?_))
  cases outcome with
  | error error => exact between.heartbeatDone
  | ok recovery =>
    refine (meets_andThen_iff _ _ _).mpr ((meets_deliverBatch configured _ _ between).mono
      (fun last outcome delivered => ?_))
    cases outcome with
    | error error => exact delivered.1
    | ok delivered' =>
      refine (meets_andThen_iff _ _ _).mpr ((meets_executeBatch _ _ delivered.1).mono
        (fun final outcome stopped => ?_))
      cases outcome with
      | ok processed => exact stopped
      | error error => exact stopped

end PollRecord

end RlmApi
