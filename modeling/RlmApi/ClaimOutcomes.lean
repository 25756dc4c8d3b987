import RlmApi.CallSpecs
import RlmApi.WorkerTasks

/-!
# What `process_claim` relies on and ends with

`process_claim` awaits its execution, the store, and the end of its tasks. It sees of
them how its calls end, whether the tasks have ended, and whether the lease is lost. A
call may be interrupted at any time, but only by a cancellation from outside; and the
execution ends with `CancelledError` only if it was cancelled, which the heartbeat loop
does after it has noted the lost lease.

From these observations alone every outcome follows: a claim is settled when
`process_claim` returns, what it raises has a reason, and both tasks have ended.
-/

namespace RlmApi

open Coroutine Worker RunStore

/-! ## The calls that settle a claim -/

namespace WorkerCall

/-- `store.fail` for the run. -/
def Fails (run : ClaimedRun) : WorkerCall → Prop
  | .fail other _ _ _ => other = run
  | _ => False

/-- `store.succeed` or `store.fail` for the run. -/
def Settles (run : ClaimedRun) : WorkerCall → Prop
  | .succeed other _ | .fail other _ _ _ => other = run
  | _ => False

end WorkerCall

/-! ## Observations -/

/-- What can be observed: the calls and their ends, the tasks, and the cancellation. -/
structure ClaimRecord where
  calls : List WorkerCall
  ended : List (WorkerCall × Bool)
  executionDone : Bool
  heartbeatDone : Bool
  leaseLost : Bool
  cancelled : Bool

namespace ClaimRecord

def isDone (record : ClaimRecord) : ClaimTask → Bool
  | .execution => record.executionDone
  | .heartbeat => record.heartbeatDone

/-- While `process_claim` waits, nothing that was observed is taken back. -/
structure Grown (record later : ClaimRecord) : Prop where
  calls : later.calls = record.calls
  ended : ∀ entry ∈ record.ended, entry ∈ later.ended
  isDone : ∀ task, record.isDone task = true → later.isDone task = true
  leaseLost : record.leaseLost = true → later.leaseLost = true
  cancelled : record.cancelled = true → later.cancelled = true

theorem Grown.refl (record : ClaimRecord) : Grown record record :=
  ⟨rfl, fun _ member => member, fun _ done => done, id, id⟩

theorem Grown.trans {first second third : ClaimRecord} (early : Grown first second)
    (late : Grown second third) : Grown first third :=
  ⟨late.calls.trans early.calls, fun entry member => late.ended entry (early.ended entry member),
    fun task done => late.isDone task (early.isDone task done),
    fun lost => late.leaseLost (early.leaseLost lost),
    fun cancelled => late.cancelled (early.cancelled cancelled)⟩

/-- An error of the execution: `CancelledError` has one of two causes. -/
structure Excused (record : ClaimRecord) (error : Raised) : Prop where
  cancelled : error.isInstance .cancelledError = true →
    record.cancelled = true ∨ record.leaseLost = true
  exception : error.isInstance .cancelledError = false → error.isInstance .exception = true

/-- The outcomes of a call that is not interrupted. -/
def Admitted (record : ClaimRecord) : (call : WorkerCall) → Except Raised call.Answer → Prop
  | .leaseLost, .ok lost => lost = record.leaseLost
  | .awaitExecution, .error error => record.Excused error
  | .leaseLost, .error _ | .monotonic, .error _ | .start _ _ _ _, .error _ | .stop _, .error _ =>
    False
  | _, .error error =>
    error.isInstance .cancelledError = false ∧ error.isInstance .exception = true
  | _, .ok _ => True

/-- An outcome is admitted by what is known of lease and cancellation. -/
theorem Admitted.later {record later : ClaimRecord} {call : WorkerCall}
    {outcome : Except Raised call.Answer} (admitted : record.Admitted call outcome)
    (leaseLost : later.leaseLost = record.leaseLost)
    (cancelled : later.cancelled = record.cancelled) : later.Admitted call outcome := by
  cases call with
  | leaseLost =>
    cases outcome with
    | ok lost => exact Eq.trans admitted leaseLost.symm
    | error error => exact admitted
  | awaitExecution =>
    cases outcome with
    | ok value => trivial
    | error error =>
      obtain ⟨causes, exception⟩ := admitted
      refine ⟨fun same => ?_, exception⟩
      rw [cancelled, leaseLost]
      exact causes same
  | _ => cases outcome <;> exact admitted

/-- How a call ends: it is interrupted from outside, or it ends in its own way. -/
inductive Ends (record : ClaimRecord) :
    (call : WorkerCall) → Except Raised call.Answer → ClaimRecord → Prop
  | interrupted {call : WorkerCall} {later : ClaimRecord} (grown : record.Grown later)
      (ready : ∀ task, call.awaited = some task → later.isDone task = true)
      (suspends : call.suspends = true) (cancelled : later.cancelled = true) :
      Ends record call (.error .cancelled) later
  | ended {call : WorkerCall} {outcome : Except Raised call.Answer} {later : ClaimRecord}
      (grown : record.Grown later)
      (ready : ∀ task, call.awaited = some task → later.isDone task = true)
      (admitted : later.Admitted call outcome) (noted : (call, outcome.isOk) ∈ later.ended) :
      Ends record call outcome later

/-- When `process_claim` makes its calls: it fails a run once at most, and does not
store its success after any of both. -/
def Requires (run : ClaimedRun) (record : ClaimRecord) : WorkerCall → Prop
  | .succeed other _ => other = run ∧ ∀ call ∈ record.calls, ¬ call.Settles run
  | .fail other _ _ _ => other = run ∧ ∀ call ∈ record.calls, ¬ call.Fails run
  | .stop .execution => record.executionDone = true
  | _ => True

/-- Making a call. -/
def begin (record : ClaimRecord) (call : WorkerCall) : ClaimRecord :=
  match call with
  | .start _ _ _ _ =>
    { record with
      calls := record.calls ++ [call]
      executionDone := false
      heartbeatDone := false
      leaseLost := false }
  | _ => { record with calls := record.calls ++ [call] }

section Ends

variable {record later : ClaimRecord} {call : WorkerCall}

theorem Ends.grown {outcome : Except Raised call.Answer} (ends : Ends record call outcome later) :
    record.Grown later := by
  cases ends with
  | interrupted grown => exact grown
  | ended grown => exact grown

/-- Nothing new is admitted later. -/
theorem Ends.earlier {first : ClaimRecord} {outcome : Except Raised call.Answer}
    (ends : Ends record call outcome later) (before : first.Grown record) :
    Ends first call outcome later := by
  cases ends with
  | interrupted grown ready suspends cancelled =>
    exact .interrupted (before.trans grown) ready suspends cancelled
  | ended grown ready admitted noted => exact .ended (before.trans grown) ready admitted noted

/-- A task that a call awaits has ended when the call does, interrupted or not. -/
theorem Ends.ready {outcome : Except Raised call.Answer} (ends : Ends record call outcome later)
    {task : ClaimTask} (awaits : call.awaited = some task) : later.isDone task = true := by
  cases ends with
  | interrupted grown ready => exact ready task awaits
  | ended grown ready => exact ready task awaits

theorem Ends.returned {value : call.Answer} (ends : Ends record call (.ok value) later) :
    (call, true) ∈ later.ended := by
  cases ends with
  | ended grown ready admitted noted => exact noted

/-- A call that does not return was interrupted from outside, or has raised. -/
theorem Ends.raised {error : Raised} (ends : Ends record call (.error error) later) :
    later.cancelled = true ∨ (call, false) ∈ later.ended ∧ later.Admitted call (.error error) := by
  cases ends with
  | interrupted grown ready suspends cancelled => exact Or.inl cancelled
  | ended grown ready admitted noted => exact Or.inr ⟨noted, admitted⟩

/-- Whatever a call raises is an `Exception` or has an excuse. -/
theorem Ends.excused {error : Raised} (ends : Ends record call (.error error) later) :
    later.Excused error := by
  cases ends with
  | interrupted grown ready suspends cancelled =>
    refine ⟨fun _ => Or.inl cancelled, fun other => ?_⟩
    cases other
  | ended grown ready admitted noted =>
    cases call with
    | awaitExecution => exact admitted
    | leaseLost | monotonic | start | stop => exact False.elim admitted
    | recoverStale | claimSummary | writeMemory | completeSummary | retrySummary | claim | succeed
    | fail => exact ⟨fun same => absurd same (by simp [admitted.1]), fun _ => admitted.2⟩

end Ends

theorem begin_calls (record : ClaimRecord) (call : WorkerCall) :
    (record.begin call).calls = record.calls ++ [call] := by
  cases call <;> rfl

/-- No call of the run has been settled. -/
def Unsettled (run : ClaimedRun) (record : ClaimRecord) : Prop :=
  ∀ call ∈ record.calls, ¬ call.Settles run

/-- The run has not been failed. -/
def Unfailed (run : ClaimedRun) (record : ClaimRecord) : Prop :=
  ∀ call ∈ record.calls, ¬ call.Fails run

section Calls

variable {run : ClaimedRun} {record later : ClaimRecord}

theorem Unsettled.unfailed (unsettled : record.Unsettled run) : record.Unfailed run := by
  intro call member fails
  refine unsettled call member ?_
  cases call with
  | fail => exact fails
  | _ => exact False.elim fails

theorem Unsettled.after (unsettled : record.Unsettled run) (call : WorkerCall)
    (quiet : ¬ call.Settles run)
    (grown : (record.begin call).Grown later) : later.Unsettled run := by
  intro other member
  rw [grown.calls, begin_calls] at member
  rcases List.mem_append.mp member with earlier | new
  · exact unsettled other earlier
  · exact List.mem_singleton.mp new ▸ quiet

theorem Unfailed.after (unfailed : record.Unfailed run) (call : WorkerCall)
    (quiet : ¬ call.Fails run)
    (grown : (record.begin call).Grown later) : later.Unfailed run := by
  intro other member
  rw [grown.calls, begin_calls] at member
  rcases List.mem_append.mp member with earlier | new
  · exact unfailed other earlier
  · exact List.mem_singleton.mp new ▸ quiet

end Calls

/-! ## The settlement -/

/-- A claim is settled when `process_claim` returns, and what it raises has a reason. -/
def Settled (run : ClaimedRun) (record : ClaimRecord) : Except Raised Unit → Prop
  | .ok _ => (∃ call, (call, true) ∈ record.ended ∧ call.Settles run) ∨ record.leaseLost = true
  | .error _ => record.cancelled = true ∨ ∃ call, (call, false) ∈ record.ended ∧ call.Fails run

theorem Settled.grown {run : ClaimedRun} {record later : ClaimRecord}
    {outcome : Except Raised Unit} (settled : record.Settled run outcome)
    (grown : record.Grown later) : later.Settled run outcome := by
  cases outcome with
  | ok done =>
    rcases settled with ⟨call, returned, settles⟩ | lost
    · exact Or.inl ⟨call, grown.ended _ returned, settles⟩
    · exact Or.inr (grown.leaseLost lost)
  | error error =>
    rcases settled with cancelled | ⟨call, raised, fails⟩
    · exact Or.inl (grown.cancelled cancelled)
    · exact Or.inr ⟨call, grown.ended _ raised, fails⟩

theorem Settled.stop {run : ClaimedRun} {record : ClaimRecord} {outcome : Except Raised Unit}
    (settled : record.Settled run outcome) (task : ClaimTask) :
    (record.begin (.stop task)).Settled run outcome := by
  cases outcome <;> exact settled

/-- After the body of `try`. -/
structure Tried (run : ClaimedRun) (record : ClaimRecord) (outcome : Except Raised Unit) :
    Prop where
  executionDone : record.executionDone = true
  unfailed : record.Unfailed run
  returned : outcome = .ok () → ∃ call, (call, true) ∈ record.ended ∧ call.Settles run
  excused : ∀ error, outcome = .error error → record.Excused error

/-- After the handlers. -/
structure Guarded (run : ClaimedRun) (record : ClaimRecord) (outcome : Except Raised Unit) :
    Prop where
  executionDone : record.executionDone = true
  settled : record.Settled run outcome

/-- After the cleanup. -/
structure Finished (run : ClaimedRun) (record : ClaimRecord) (outcome : Except Raised Unit) :
    Prop where
  done : ∀ task, record.isDone task = true
  settled : record.Settled run outcome

theorem Finished.grown {run : ClaimedRun} {record later : ClaimRecord}
    {outcome : Except Raised Unit} (finished : record.Finished run outcome)
    (grown : record.Grown later) : later.Finished run outcome :=
  ⟨fun task => grown.isDone task (finished.done task), finished.settled.grown grown⟩

end ClaimRecord

/-- The calls of `process_claim` among its tasks and the rest of the world. -/
def claimSpec (run : ClaimedRun) : CallSpec WorkerCall WorkerCall.Answer Raised ClaimRecord :=
  ⟨ClaimRecord.Requires run, ClaimRecord.begin, ClaimRecord.Ends⟩

/-! ## The coroutine -/

namespace ClaimRecord

/-- The errors of the modelled code are exceptions. -/
theorem excused_raised (record : ClaimRecord) (error : PyError) : record.Excused error.raised := by
  refine ⟨fun cancelled => ?_, fun _ => ?_⟩
  · cases error <;> cases cancelled
  · cases error <;> rfl

section Program

variable {lower : Str → Str} {run : ClaimedRun} {record : ClaimRecord}

/-- A computation that raises ends the body of `try`. -/
theorem meets_computed {α : Type} {result : Except PyError α} {next : α → WorkerCoroutine Unit}
    (done : record.executionDone = true) (unfailed : record.Unfailed run)
    (rest : ∀ value, (next value).Meets (claimSpec run) (Tried run) record) :
    (computed result >>= next).Meets (claimSpec run) (Tried run) record := by
  cases result with
  | ok value => exact rest value
  | error error =>
    refine ⟨done, unfailed, fun impossible => ?_, fun other same => ?_⟩
    · cases impossible
    · cases same
      exact excused_raised record error

/-- A call that raises ends the body of `try`. -/
theorem tried_of_error {later : ClaimRecord} {error : Raised} (unfailed : record.Unfailed run)
    (call : WorkerCall) (quiet : ¬ call.Fails run)
    (ends : Ends (record.begin call) call (.error error) later)
    (done : later.executionDone = true) : Tried run later (.error error) := by
  refine ⟨done, unfailed.after call quiet ends.grown, fun impossible => ?_, fun other same => ?_⟩
  · cases impossible
  · cases same
    exact ends.excused

theorem meets_completeClaim (started : ℚ) (unsettled : record.Unsettled run) :
    (completeClaim run started).Meets (claimSpec run) (Tried run) record := by
  refine meets_call trivial (fun error after ends => ?_) (fun executed after ends => ?_)
  · exact tried_of_error unsettled.unfailed .awaitExecution id ends (ends.ready rfl)
  have awaited : after.executionDone = true := ends.ready rfl
  replace unsettled := unsettled.after .awaitExecution id ends.grown
  refine meets_call trivial (fun error later ends => ?_) (fun now later ends => ?_)
  · exact tried_of_error unsettled.unfailed .monotonic id ends
      (ends.grown.isDone .execution awaited)
  replace awaited : later.executionDone = true := ends.grown.isDone .execution awaited
  replace unsettled := unsettled.after .monotonic id ends.grown
  refine meets_computed awaited unsettled.unfailed (fun prediction => ?_)
  refine meets_computed awaited unsettled.unfailed (fun report => ?_)
  refine meets_call ⟨rfl, unsettled⟩ (fun error last ends => ?_) (fun persisted last ends => ?_)
  · exact tried_of_error unsettled.unfailed (.succeed run report) id ends
      (ends.grown.isDone .execution awaited)
  -- `succeed` has returned, and whatever comes of stopping the heartbeat is settled.
  have settled := ends.returned
  replace awaited : last.executionDone = true := ends.grown.isDone .execution awaited
  have unfailed := unsettled.unfailed.after (.succeed run report) id ends.grown
  refine ⟨trivial, fun outcome final ends => ?_⟩
  have stopped : final.executionDone = true := ends.grown.isDone .execution awaited
  cases outcome with
  | error error => exact tried_of_error unfailed (.stop .heartbeat) id ends stopped
  | ok done =>
    refine ⟨stopped, unfailed.after (.stop .heartbeat) id ends.grown, fun _ => ?_, fun _ same => ?_⟩
    · exact ⟨_, ends.grown.ended _ settled, rfl⟩
    · cases same

/-- `_record_failure` settles the claim, or raises for a reason. -/
theorem meets_recordFailure (publicError : String) (exceptionType : Str) (retryable : Bool)
    (done : record.executionDone = true) (unfailed : record.Unfailed run) :
    (recordFailure run publicError exceptionType retryable).Meets (claimSpec run) (Guarded run)
      record := by
  refine meets_call ⟨rfl, unfailed⟩ (fun error after ends => ?_) (fun status after ends => ?_)
  · refine ⟨ends.grown.isDone .execution done, ?_⟩
    rcases ends.raised with cancelled | ⟨raised, -⟩
    · exact Or.inl cancelled
    · exact Or.inr ⟨_, raised, rfl⟩
  · exact ⟨ends.grown.isDone .execution done, Or.inl ⟨_, ends.returned, rfl⟩⟩

theorem meets_claimHandler {error : Raised} (tried : record.Tried run (.error error)) :
    (claimHandler lower run error).Meets (claimSpec run) (Guarded run) record := by
  unfold claimHandler
  have excused := tried.excused error rfl
  split
  · exact meets_recordFailure _ _ _ tried.executionDone tried.unfailed
  · split
    · next cancelled =>
      refine meets_call trivial (fun error after ends => ?_) (fun lost after ends => ?_)
      · cases ends with
        | interrupted grown ready suspends => cases suspends
        | ended grown ready admitted => exact False.elim admitted
      · have kept : after.executionDone = true := ends.grown.isDone .execution tried.executionDone
        have read : lost = after.leaseLost := by
          cases ends with
          | ended grown ready admitted => exact admitted
        cases lost with
        | true => exact ⟨kept, Or.inr read.symm⟩
        | false =>
          -- The lease is not lost, so the other cause of a `CancelledError` is left.
          refine ⟨kept, Or.inl ?_⟩
          rcases excused.cancelled cancelled with outside | lost
          · exact ends.grown.cancelled outside
          · cases read.trans (ends.grown.leaseLost lost)
    · next other =>
      rw [if_pos (excused.exception (Bool.eq_false_iff.mpr other))]
      exact meets_recordFailure _ _ _ tried.executionDone tried.unfailed

/-- The cleanup leaves no task behind. When it is interrupted at the heartbeat loop, the
execution has ended before. -/
theorem meets_stopTasks {outcome : Except Raised Unit} (guarded : record.Guarded run outcome) :
    stopTasks.Meets (claimSpec run)
      (fun later ended => Finished run later (ended.bind (fun _ => outcome))) record := by
  have interrupted : ∀ {before after : ClaimRecord} {task : ClaimTask} {error : Raised},
      Ends before (.stop task) (.error error) after → after.cancelled = true := by
    intro before after task error ends
    rcases ends.raised with cancelled | ⟨-, impossible⟩
    · exact cancelled
    · exact False.elim impossible
  refine meets_call trivial (fun error after ends => ?_) (fun stopped after ends => ?_)
  · refine ⟨fun task => ?_, Or.inl (interrupted ends)⟩
    cases task with
    | execution => exact ends.grown.isDone .execution guarded.executionDone
    | heartbeat => exact ends.ready rfl
  have beaten : after.isDone .heartbeat = true := ends.ready rfl
  have settled := ((guarded.settled.stop .heartbeat).grown ends.grown).stop .execution
  refine ⟨ends.grown.isDone .execution guarded.executionDone, fun outcome' final ends => ?_⟩
  have done : ∀ task, final.isDone task = true := by
    intro task
    cases task with
    | execution => exact ends.ready rfl
    | heartbeat => exact ends.grown.isDone .heartbeat beaten
  cases outcome' with
  | error error => exact ⟨done, Or.inl (interrupted ends)⟩
  | ok ended => exact ⟨done, settled.grown ends.grown⟩

/-- `process_claim` settles its claim or raises for a reason, and leaves no task behind. -/
theorem meets_processClaim (staleSeconds : Int) (expected : Str × Int)
    (unsettled : record.Unsettled run) :
    (processClaim lower run staleSeconds expected).Meets (claimSpec run) (Finished run) record := by
  refine meets_call trivial (fun error after ends => ?_) (fun started after ends => ?_)
  · cases ends with
    | interrupted grown ready suspends => cases suspends
    | ended grown ready admitted => exact False.elim admitted
  replace unsettled := unsettled.after .monotonic id ends.grown
  refine meets_call trivial (fun error later ends => ?_) (fun begun later ends => ?_)
  · cases ends with
    | interrupted grown ready suspends => cases suspends
    | ended grown ready admitted => exact False.elim admitted
  replace unsettled := unsettled.after (.start run expected staleSeconds
    (heartbeatInterval staleSeconds)) id ends.grown
  refine meets_tryFinally ?_ (fun last outcome guarded => meets_stopTasks guarded)
  refine meets_tryExcept (meets_completeClaim started unsettled) ?_ ?_
  · intro last value tried
    exact ⟨tried.executionDone, Or.inl (tried.returned rfl)⟩
  · intro last error tried
    exact meets_claimHandler tried

end Program

end ClaimRecord

end RlmApi
