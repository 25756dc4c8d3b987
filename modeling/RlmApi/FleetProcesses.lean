import RlmApi.DeliveryInvariant
import RlmApi.PollCycleCalls
import RlmApi.WorkerFleet

/-!
# What a process of the fleet knows

A process of the fleet has made the calls of its poll cycle one by one and seen how they
ended. `Follows` says what it then knows: the claim it received last, the phase of its
delivery and whether a heartbeat loop runs, with which its coroutine stands at calls
that it may make. The steps of its tasks keep this, and the end of a call leads to the
next call.

A statement takes effect when it is executed. What its call ends with comes later, and
only moves the phase: a statement whose answer is lost has been executed all the same.
-/

namespace RlmApi

open Coroutine Worker RunStore

/-! ## The records of a process -/

/-- The answer of the call comes from a store. -/
def WorkerCall.asksStore (request : WorkerCall) : Bool :=
  request.suspends && request.awaited.isNone

/-- No heartbeat loop runs. -/
def WorkerState.heartbeatDone {α : Type} (state : WorkerState α) : Bool :=
  state.tasks.all (fun tasks => tasks.isDone .heartbeat)

namespace CallProgress

/-- The phase in the protocol, while a call is under way. -/
def phase (progress : CallProgress) (recorded : DeliveryPhase) (request : WorkerCall) :
    DeliveryPhase :=
  match request, progress with
  | .claimSummary _ _, .poisoned runId _ => .poisoned runId
  | .claimSummary _ _, .answered (.summary (some item)) => .claimed item
  | .writeMemory _, .answered _ => recorded.afterWrite true
  | .completeSummary item, .answered _ => .undelivered item
  | .retrySummary _ _, .answered _ => .idle
  | _, _ => recorded

/-- What a call returns is what the database has answered. -/
def Explains (progress : CallProgress) (request : WorkerCall)
    (outcome : Except Raised request.Answer) : Prop :=
  ∀ value, outcome = .ok value → request.asksStore = true → progress.reply? request = some value

/-- What the database has answered to a claim. -/
theorem reply?_claim {progress : CallProgress} {owner : Str} {run : Option ClaimedRun}
    (replied : progress.reply? (.claim owner) = some run) :
    progress = .answered (.queue (.claimed run)) := by
  cases progress with
  | asked | poisoned => cases replied
  | answered reply =>
    cases reply with
    | queue answer =>
      cases answer with
      | claimed claim =>
        obtain rfl : claim = run := Option.some.inj replied
        rfl
      | enqueued | beaten | succeeded | failed | recovered | reported => cases replied
    | summary | memory | owned => cases replied

/-- What the database has answered to a claim of a summary. -/
theorem reply?_claimSummary {progress : CallProgress} {owner : Str} {staleSeconds : Int}
    {item : Option SummaryOutboxItem}
    (replied : progress.reply? (.claimSummary owner staleSeconds) = some item) :
    progress = .answered (.summary item) := by
  cases progress with
  | asked | poisoned => cases replied
  | answered reply =>
    cases reply with
    | summary claim =>
      obtain rfl : claim = item := Option.some.inj replied
      rfl
    | queue answer => cases answer <;> cases replied
    | memory | owned => cases replied

end CallProgress

namespace WorkerProcess

/-- What the process knows of itself. -/
def record (process : WorkerProcess) (latest : Option ClaimedRun) (recorded : DeliveryPhase) :
    PollRecord :=
  ⟨latest, recorded, process.worker.heartbeatDone⟩

/-- The phase of the process in the protocol. -/
def phase (process : WorkerProcess) (recorded : DeliveryPhase) : DeliveryPhase :=
  match process.worker.program with
  | .done _ => recorded
  | .call request _ => process.progress.phase recorded request

/-- What holds of a process whose last claim in the queue's record is `latest`. -/
structure Follows (workerId : Str) (embedding : Str × Int) (latest : Option ClaimedRun)
    (recorded : DeliveryPhase) (process : WorkerProcess) : Prop where
  stands : process.worker.program.Stands (pollSpec workerId embedding)
    (fun after _ => after.heartbeatDone = true) (process.record latest recorded)
  required : ∀ request rest, process.worker.program = .call request rest →
    (process.record latest recorded).Requires workerId embedding request
  claimed : ∀ owner run rest, process.worker.program = .call (.claim owner) rest →
    process.progress = .answered (.queue (.claimed (some run))) → latest = some run
  beats : process.worker.heartbeatDone = false → process.started? = latest

end WorkerProcess

namespace PollRecord

variable {workerId : Str} {embedding : Str × Int} {record : PollRecord} {request : WorkerCall}

/-- Making a call does not take back what it requires. -/
theorem Requires.begin (required : record.Requires workerId embedding request) :
    (record.begin request).Requires workerId embedding request := by
  cases request <;> exact required

/-- A heartbeat loop that has ended allows for no new ends. -/
theorem Ends.earlier {later after : PollRecord} {outcome : Except Raised request.Answer}
    (ends : Ends later request outcome after)
    (latest : later.latest = record.latest) (phase : later.phase = record.phase)
    (stays : record.heartbeatDone = true → later.heartbeatDone = true) :
    Ends record request outcome after := by
  refine ⟨?_, phase ▸ ends.phase, fun done => ends.heartbeatDone (stays done), ends.stopped,
    ends.returned⟩
  have known := ends.latest
  unfold LatestAfter at known ⊢
  rw [← latest]
  exact known

end PollRecord

namespace WorkerProcess

variable {workerId : Str} {embedding : Str × Int} {latest : Option ClaimedRun}
  {recorded : DeliveryPhase} {process process' : WorkerProcess}

/-! ## Going on after a call -/

/-- What making a call does to the tasks, it does to the record. -/
theorem record_proceed_call (process : WorkerProcess) (latest : Option ClaimedRun)
    (recorded : DeliveryPhase) (request : WorkerCall)
    (rest : Except Raised request.Answer → WorkerCoroutine (ℚ × Nat)) :
    (process.proceed (.call request rest)).record latest recorded =
      (process.record latest recorded).begin request := by
  cases request with
  | start => rfl
  | stop task =>
    simp only [record, proceed, WorkerState.advanced, WorkerState.heartbeatDone, WorkerCall.begin,
      PollRecord.begin, Option.all_map, ClaimTasks.isDone_cancel]
  | _ => rfl

/-- The claim whose tasks were started last, after a call. -/
theorem started?_proceed_call (process : WorkerProcess) (request : WorkerCall)
    (rest : Except Raised request.Answer → WorkerCoroutine (ℚ × Nat)) :
    (process.proceed (.call request rest)).started? =
      match request with
      | .start run _ _ _ => some run
      | _ => process.started? := by
  simp only [started?, proceed, WorkerState.advanced, List.reverse_append, List.reverse_cons,
    List.reverse_nil, List.nil_append, List.singleton_append, List.findSome?_cons]
  cases request <;> rfl

/-- A process goes on with what its coroutine meets. -/
theorem Follows.proceed (process : WorkerProcess) {program : WorkerCoroutine (ℚ × Nat)}
    (met : program.Meets (pollSpec workerId embedding) (fun after _ => after.heartbeatDone = true)
      (process.record latest recorded))
    (beats : process.worker.heartbeatDone = false → process.started? = latest) :
    (process.proceed program).Follows workerId embedding latest recorded := by
  cases program with
  | done outcome =>
    refine ⟨met, fun request rest stands => ?_, fun owner run rest stands => ?_, beats⟩ <;>
      cases stands
  | call request rest =>
    obtain ⟨required, follows⟩ := met
    have begun := record_proceed_call process latest recorded request rest
    refine ⟨?_, fun other rest' stands => ?_, fun owner run rest' stands answered => ?_,
      fun running => ?_⟩
    · rw [begun]
      exact follows
    · cases stands
      rw [begun]
      exact required.begin
    · cases answered
    · rw [started?_proceed_call]
      cases request with
      | start run expected staleSeconds interval => exact required.symm
      | _ => exact beats ((congrArg PollRecord.heartbeatDone begun).symm.trans running)

/-! ## Answers of the database -/

/-- The database answers a call. A claim may hand a new claim to the process, which runs
no heartbeat loop while it asks. -/
theorem Follows.answered (follows : process.Follows workerId embedding latest recorded)
    (progress : CallProgress) {now : Option ClaimedRun}
    (moves : now = latest ∨ ∃ owner rest, process.worker.program = .call (.claim owner) rest)
    (claimed : ∀ owner run rest, process.worker.program = .call (.claim owner) rest →
      progress = .answered (.queue (.claimed (some run))) → now = some run) :
    Follows workerId embedding now recorded { process with progress := progress } := by
  rcases moves with rfl | ⟨owner, rest, stands⟩
  · exact ⟨follows.stands, follows.required, claimed, follows.beats⟩
  · obtain ⟨own, stays⟩ := follows.required (.claim owner) rest stands
    have allowed := follows.stands
    refine ⟨?_, fun request rest' claims => ?_, claimed, fun running => ?_⟩
    · rw [stands] at allowed
      show process.worker.program.Stands _ _ _
      rw [stands]
      refine fun outcome after ends => allowed outcome after ⟨?_, ends.phase, ends.heartbeatDone,
        ends.stopped, ends.returned⟩
      -- What the call may end with does not depend on the claim received before.
      have known := ends.latest
      rcases outcome with error | (_ | run) <;> exact known
    · obtain ⟨rfl, -⟩ := Coroutine.call.inj (stands.symm.trans claims)
      exact ⟨own, stays⟩
    · cases running.symm.trans stays

/-! ## Steps of the tasks -/

/-- A step of another task: the calls stay, and no heartbeat loop begins. -/
theorem Follows.later (follows : process.Follows workerId embedding latest recorded)
    (program : process'.worker.program = process.worker.program)
    (progress : process'.progress = process.progress)
    (calls : process'.worker.calls = process.worker.calls)
    (stays : process.worker.heartbeatDone = true → process'.worker.heartbeatDone = true) :
    process'.Follows workerId embedding latest recorded ∧
      process'.phase recorded = process.phase recorded := by
  refine ⟨⟨?_, fun request rest stands => ?_, fun owner run rest stands answered => ?_,
    fun running => ?_⟩, ?_⟩
  · rw [program]
    refine follows.stands.later (fun request outcome after ends => ?_) (fun _ done => stays done)
    exact PollRecord.Ends.earlier ends rfl rfl stays
  · have required := follows.required request rest (program ▸ stands)
    cases request with
    | claim owner => exact ⟨required.1, stays required.2⟩
    | _ => exact required
  · exact follows.claimed owner run rest (program ▸ stands) (progress ▸ answered)
  · rw [started?, calls]
    refine follows.beats (Bool.eq_false_iff.mpr (fun done => ?_))
    rw [stays done] at running
    cases running
  · rw [phase, program, progress]
    rfl

/-! ## The end of a call -/

/-- A call that ends as the fleet lets it ends as the specification says. -/
theorem Follows.ends (follows : process.Follows workerId embedding latest recorded)
    {request : WorkerCall} {rest : Except Raised request.Answer → WorkerCoroutine (ℚ × Nat)}
    {outcome : Except Raised request.Answer} (stands : process.worker.program = .call request rest)
    (explained : process.progress.Explains request outcome)
    (stopped : request = .stop .heartbeat → process.worker.heartbeatDone = true)
    (returned : request.suspends = false → outcome.isOk = true) :
    (process.record latest recorded).Ends request outcome
      (process.record latest (recorded.afterCall request outcome)) := by
  refine ⟨?_, rfl, id, stopped, returned⟩
  cases request with
  | claim owner =>
    cases outcome with
    | error error => trivial
    | ok run =>
      cases run with
      | none => trivial
      | some run =>
        have replied := explained (some run) rfl rfl
        exact follows.claimed owner run rest stands (CallProgress.reply?_claim replied)
  | _ => rfl

/-- The process goes on after the end of a call. -/
theorem Follows.ended (follows : process.Follows workerId embedding latest recorded)
    {request : WorkerCall} {rest : Except Raised request.Answer → WorkerCoroutine (ℚ × Nat)}
    {outcome : Except Raised request.Answer} (stands : process.worker.program = .call request rest)
    (explained : process.progress.Explains request outcome)
    (stopped : request = .stop .heartbeat → process.worker.heartbeatDone = true)
    (returned : request.suspends = false → outcome.isOk = true) :
    (process.proceed (rest outcome)).Follows workerId embedding latest
      (recorded.afterCall request outcome) := by
  have allowed := follows.stands
  rw [stands] at allowed
  exact Follows.proceed process
    (allowed outcome _ (follows.ends stands explained stopped returned)) follows.beats

/-- Nothing is executed of the next call. -/
theorem phase_proceed (process : WorkerProcess) (program : WorkerCoroutine (ℚ × Nat))
    (recorded : DeliveryPhase) : (process.proceed program).phase recorded = recorded := by
  cases program with
  | done outcome => rfl
  | call request rest => cases request <;> rfl

/-- A task that has ended, as a call that awaits it sees it. -/
theorem heartbeatDone_of_ready (ready : process.worker.ready (.stop .heartbeat) = true) :
    process.worker.heartbeatDone = true := by
  simp only [WorkerState.ready, WorkerCall.awaited] at ready
  obtain ⟨tasks, started, done⟩ := (Option.any_eq_true _ _).mp ready
  rw [WorkerState.heartbeatDone, started]
  exact done

/-- A call that is resumed ends with what the database has answered, or raises. -/
theorem explains_of_outcome {clock : ℚ} {arrives : Bool} {error : Raised} {request : WorkerCall}
    {outcome : Except Raised request.Answer}
    (ended : process.worker.outcome? (process.progress.answers clock arrives error) request =
      some outcome) : process.progress.Explains request outcome := by
  intro value same store
  subst same
  cases request with
  | monotonic | start | leaseLost | stop | awaitExecution => cases store
  | _ =>
    simp only [WorkerState.outcome?, CallProgress.answers] at ended
    split at ended
    · next answer answered =>
      cases ended
      split at answered
      · next replied =>
        cases answered
        exact replied
      · cases answered
    · split at ended <;> cases ended

/-- A call that does not suspend does not raise, and the awaited loop has ended. -/
theorem returned_of_outcome {answers : (call : WorkerCall) → Except Raised call.Answer}
    {request : WorkerCall} {outcome : Except Raised request.Answer}
    (ended : process.worker.outcome? answers request = some outcome) :
    (request = .stop .heartbeat → process.worker.heartbeatDone = true) ∧
      (request.suspends = false → outcome.isOk = true) := by
  cases request with
  | monotonic =>
    simp only [WorkerState.outcome?] at ended
    split at ended
    · cases ended
      exact ⟨(fun same => by cases same), fun _ => rfl⟩
    · cases ended
  | start =>
    cases ended
    exact ⟨(fun same => by cases same), fun _ => rfl⟩
  | leaseLost =>
    obtain ⟨tasks, -, rfl⟩ := Option.map_eq_some_iff.mp ended
    exact ⟨(fun same => by cases same), fun _ => rfl⟩
  | stop task =>
    simp only [WorkerState.outcome?] at ended
    split at ended
    · next ready =>
      refine ⟨fun same => ?_, fun instant => by cases instant⟩
      cases same
      exact heartbeatDone_of_ready ready
    · cases ended
  | _ => exact ⟨(fun same => by cases same), fun instant => by cases instant⟩

/-! ## The steps of a process -/

/-- The tasks of a claim take a step after which no heartbeat loop has begun. -/
theorem Follows.move (follows : process.Follows workerId embedding latest recorded)
    {change : ClaimTasks → Option ClaimTasks}
    (stays : ∀ tasks tasks', change tasks = some tasks' → tasks.isDone .heartbeat = true →
      tasks'.isDone .heartbeat = true)
    (taken : process.move change = some process') :
    process'.Follows workerId embedding latest recorded ∧
      process'.phase recorded = process.phase recorded := by
  unfold WorkerProcess.move at taken
  split at taken
  · obtain ⟨tasks', changed, rfl⟩ := Option.map_eq_some_iff.mp taken
    obtain ⟨tasks, started, moved⟩ := Option.bind_eq_some_iff.mp changed
    refine follows.later rfl rfl rfl (fun done => ?_)
    simp only [WorkerState.heartbeatDone, started, Option.all_some] at done ⊢
    exact stays tasks tasks' moved done
  · cases taken

/-- The execution is a task of its own. -/
theorem isDone_endExecution {tasks tasks' : ClaimTasks}
    {outcome : Except Raised (ExecutedPrediction × List Memory)}
    (ended : tasks.endExecution outcome = some tasks' ∨ tasks.endLate outcome = some tasks') :
    tasks'.heartbeat = tasks.heartbeat := by
  rcases ended with ended | ended
  · unfold ClaimTasks.endExecution at ended
    split at ended
    · cases ended
      rfl
    · split at ended
      · split at ended
        · cases ended
        · cases ended
          rfl
      · cases ended
        rfl
    · cases ended
  · unfold ClaimTasks.endLate at ended
    split at ended
    · cases ended
      rfl
    · split at ended
      · cases ended
        rfl
      · cases ended
    · cases ended

/-- A cancellation ends no task by itself. -/
theorem Follows.cancel (follows : process.Follows workerId embedding latest recorded) :
    let cancelled : WorkerProcess := { process with worker := process.worker.cancel }
    cancelled.Follows workerId embedding latest recorded ∧
      cancelled.phase recorded = process.phase recorded := by
  refine follows.later (WorkerState.program_cancel _) rfl (WorkerState.calls_cancel _)
    (fun done => ?_)
  simp only [WorkerState.cancel]
  split
  · exact done
  · next request rest stands =>
    cases request.awaited with
    | none => exact done
    | some task =>
      simp only [WorkerState.heartbeatDone, Option.all_map] at done ⊢
      refine (Option.all_eq_true _ _).mpr (fun tasks started => ?_)
      exact (ClaimTasks.isDone_cancel tasks task .heartbeat).trans
        ((Option.all_eq_true _ _).mp done tasks started)

/-- A process at the start of a cycle. -/
theorem follows_initial (lower : Str → Str) (settings : Settings) (workerId : Str)
    (lastRecovery : ℚ) (latest : Option ClaimedRun) :
    (initial lower settings workerId lastRecovery).Follows workerId
      (settings.embeddingModel, settings.embeddingDim) latest .idle ∧
    (initial lower settings workerId lastRecovery).phase .idle = .idle := by
  let before : WorkerProcess :=
    ⟨⟨pollCycle lower settings workerId lastRecovery, false, none, []⟩, .initial⟩
  have between : (before.record latest .idle).Between := ⟨rfl, rfl⟩
  exact ⟨Follows.proceed before (PollRecord.meets_pollCycle rfl lastRecovery between)
    (fun impossible => by cases impossible), phase_proceed before _ _⟩

/-- What a step of a process does to its phase. -/
def PhaseMoves (process process' : WorkerProcess) (recorded recorded' : DeliveryPhase) : Prop :=
  process'.phase recorded' = process.phase recorded ∨ process'.phase recorded' = .idle ∨
    ∃ (request : WorkerCall) (rest : Except Raised request.Answer → WorkerCoroutine (ℚ × Nat))
      (outcome : Except Raised request.Answer), process.worker.program = .call request rest ∧
      process.progress.Explains request outcome ∧
      process'.phase recorded' = recorded.afterCall request outcome

/-- Every step of a process is accounted for. -/
theorem Follows.next (follows : process.Follows workerId embedding latest recorded)
    {lower : Str → Str} {settings : Settings} {act : ProcessAct}
    (configured : (settings.embeddingModel, settings.embeddingDim) = embedding)
    (taken : process.next lower settings workerId act = some process') :
    ∃ recorded', process'.Follows workerId embedding latest recorded' ∧
      PhaseMoves process process' recorded recorded' := by
  cases act with
  | begin lastRecovery =>
    simp only [WorkerProcess.next] at taken
    split at taken
    · cases taken
      obtain ⟨begun, idle⟩ := follows_initial lower settings workerId lastRecovery latest
      exact ⟨.idle, configured ▸ begun, Or.inr (Or.inl idle)⟩
    · cases taken
  | resume clock arrives error =>
    simp only [WorkerProcess.next] at taken
    split at taken
    · cases taken
    · next request rest stands =>
      split at taken
      · next interrupted =>
        obtain ⟨-, suspends⟩ := Bool.and_eq_true _ _ ▸ interrupted
        split at taken
        · next ready =>
          cases taken
          have explained : process.progress.Explains request (.error .cancelled) :=
            fun value impossible => by cases impossible
          refine ⟨_, follows.ended stands explained (fun same => ?_) (fun other => ?_),
            Or.inr (Or.inr ⟨request, rest, _, stands, explained, phase_proceed _ _ _⟩)⟩
          · subst same
            exact heartbeatDone_of_ready ready
          · cases suspends.symm.trans other
        · cases taken
      · obtain ⟨outcome, ended, rfl⟩ := Option.map_eq_some_iff.mp taken
        have explained := explains_of_outcome ended
        obtain ⟨stopped, returned⟩ := returned_of_outcome ended
        exact ⟨_, follows.ended stands explained stopped returned,
          Or.inr (Or.inr ⟨request, rest, outcome, stands, explained, phase_proceed _ _ _⟩)⟩
  | receive =>
    simp only [WorkerProcess.next] at taken
    split at taken
    · next rest outcome heartbeat leaseLost stands started =>
      cases taken
      have explained : process.progress.Explains .awaitExecution outcome :=
        fun _ _ store => by cases store
      exact ⟨_, follows.ended stands explained (fun same => by cases same)
        (fun instant => by cases instant),
        Or.inr (Or.inr ⟨.awaitExecution, rest, outcome, stands, explained, phase_proceed _ _ _⟩)⟩
    · cases taken
  | execution outcome =>
    obtain ⟨moved, same⟩ := follows.move (fun tasks tasks' ended done => by
      rwa [ClaimTasks.isDone, isDone_endExecution (Or.inl ended)]) taken
    exact ⟨recorded, moved, Or.inl same⟩
  | lateExecution outcome =>
    obtain ⟨moved, same⟩ := follows.move (fun tasks tasks' ended done => by
      rwa [ClaimTasks.isDone, isDone_endExecution (Or.inr ended)]) taken
    exact ⟨recorded, moved, Or.inl same⟩
  | heartbeat beat recent =>
    obtain ⟨moved, same⟩ := follows.move (fun tasks tasks' beaten done => by
      simp [ClaimTasks.beat, of_decide_eq_true done] at beaten) taken
    exact ⟨recorded, moved, Or.inl same⟩
  | cancel =>
    simp only [WorkerProcess.next] at taken
    split at taken
    · cases taken
      obtain ⟨cancelled, same⟩ := follows.cancel
      exact ⟨recorded, cancelled, Or.inl same⟩
    · cases taken

end WorkerProcess

end RlmApi
