import RlmApi.CoroutineTraces
import RlmApi.WorkerLoop

/-!
# What a worker does as long as it lives

`run_worker_loop` is there to claim what is waiting and to recover what is stale, for as
long as the process lives. A cycle that returns has asked for a summary and for a run, and
knows of a recent recovery; and of every few cycles in succession one returns, or else the
loop gives up.

What a cycle did is the trace of its coroutine: the calls that have ended, whatever the
other tasks do meanwhile.
-/

namespace RlmApi

open Coroutine Worker

/-- A call of the worker with how it ended. -/
abbrev WorkerObservation := Observation WorkerCall WorkerCall.Answer Raised

/-- A claim that was answered with a summary or with a run. -/
def takesItem : WorkerObservation → Bool
  | ⟨.claimSummary _ _, .ok (some _)⟩ => true
  | ⟨.claim _, .ok (some _)⟩ => true
  | _ => false

/-- How many summaries and runs were taken. -/
def itemsTaken (trace : List WorkerObservation) : Nat := trace.countP takesItem

theorem itemsTaken_append (before after : List WorkerObservation) :
    itemsTaken (before ++ after) = itemsTaken before + itemsTaken after :=
  List.countP_append ..

/-- The call takes nothing new. -/
def TakesNone (request : WorkerCall) : Prop := request.takes = false

theorem itemsTaken_of_calls {α : Type} {body : WorkerCoroutine α} {trace : List WorkerObservation}
    {outcome : Except Raised α} (calls : body.Calls TakesNone)
    (completes : Completes body trace outcome) : itemsTaken trace = 0 := by
  refine List.countP_eq_zero.mpr (fun observation member taken => ?_)
  have none : observation.1.takes = false := calls.leaves completes observation member
  obtain ⟨request, ended⟩ := observation
  cases request with
  | claim | claimSummary => cases none
  | monotonic | recoverStale | writeMemory | completeSummary | retrySummary | start
  | awaitExecution | succeed | fail | stop | leaseLost => cases taken

/-! ## The parts of a cycle -/

section Parts

variable {lower : Str → Str} {settings : Settings} {workerId : Str}

theorem calls_ask {request : WorkerCall} (none : request.takes = false) :
    (ask request).Calls TakesNone :=
  calls_invoke none

theorem calls_computed {α : Type} (result : Except PyError α) :
    (computed result).Calls TakesNone := by
  cases result with
  | ok value => exact calls_done _
  | error error => exact calls_done _

theorem calls_completeClaim (run : ClaimedRun) (started : ℚ) :
    (completeClaim run started).Calls TakesNone :=
  calls_bind (calls_ask rfl) fun _ => calls_bind (calls_ask rfl) fun _ =>
    calls_bind (calls_computed _) fun _ => calls_bind (calls_computed _) fun _ =>
      calls_bind (calls_ask rfl) fun _ => calls_ask rfl

theorem calls_recordFailure (run : ClaimedRun) (publicError : String) (exceptionType : Str)
    (retryable : Bool) : (recordFailure run publicError exceptionType retryable).Calls TakesNone :=
  calls_bind (calls_ask rfl) fun _ => calls_done _

theorem calls_claimHandler (run : ClaimedRun) (error : Raised) :
    (claimHandler lower run error).Calls TakesNone := by
  unfold claimHandler
  split
  · exact calls_recordFailure ..
  · split
    · refine calls_bind (calls_ask rfl) (fun lost => ?_)
      cases lost <;> exact calls_done _
    · split
      · exact calls_recordFailure ..
      · exact calls_done _

/-- Nothing new is taken while a run is executed. -/
theorem calls_processClaim (run : ClaimedRun) (staleSeconds : Int) (expected : Str × Int) :
    (processClaim lower run staleSeconds expected).Calls TakesNone :=
  calls_bind (calls_ask rfl) fun _ => calls_bind (calls_ask rfl) fun _ =>
    calls_tryFinally (calls_tryExcept (calls_completeClaim _ _) (calls_claimHandler _))
      (calls_bind (calls_ask rfl) fun _ => calls_ask rfl)

/-- Nothing new is taken while a summary is delivered. -/
theorem calls_deliverSummary (expected : Str × Int) (item : SummaryOutboxItem) :
    (deliverSummary expected item).Calls TakesNone := by
  unfold deliverSummary
  split
  · exact calls_bind (calls_ask rfl) fun _ => calls_done _
  · refine calls_tryExcept (calls_bind (calls_ask rfl) fun _ => calls_bind (calls_ask rfl) fun _ =>
      calls_done _) (fun error => ?_)
    split
    · exact calls_done _
    · split
      · exact calls_bind (calls_ask rfl) fun _ => calls_done _
      · exact calls_done _

/-- The batch of summaries is asked for, and counted. -/
theorem completes_deliverBatch {iterations processed total : Nat} {trace : List WorkerObservation}
    (completes : Completes (deliverBatch settings workerId iterations processed) trace
      (.ok total)) :
    total = processed + itemsTaken trace ∧ (0 < iterations → ∃ answer,
      (⟨.claimSummary workerId settings.workerStaleSeconds, .ok answer⟩ : WorkerObservation) ∈
        trace) := by
  induction iterations generalizing processed trace with
  | zero =>
    obtain ⟨rfl, rfl⟩ := completes_pure_iff.mp completes
    exact ⟨rfl, fun impossible => absurd impossible (Nat.lt_irrefl 0)⟩
  | succ iterations inductionHypothesis =>
    obtain ⟨claimed, rest, rfl, continued⟩ := Completes.call completes
    refine ⟨?_, fun _ => ⟨claimed, List.mem_cons_self⟩⟩
    cases claimed with
    | none =>
      obtain ⟨rfl, rfl⟩ := completes_pure_iff.mp continued
      rfl
    | some item =>
      obtain ⟨before, after, _, rfl, delivered, later⟩ := Completes.bind continued
      obtain ⟨counted, -⟩ := inductionHypothesis later
      have none := itemsTaken_of_calls (calls_deliverSummary _ item) delivered
      have one : itemsTaken (⟨.claimSummary workerId settings.workerStaleSeconds,
          .ok (some item)⟩ :: (before ++ after)) = 1 + itemsTaken (before ++ after) := by
        rw [Nat.add_comm]
        exact List.countP_cons_of_pos rfl
      rw [one, itemsTaken_append, none, counted]
      omega

/-- The batch of runs is asked for, and counted. -/
theorem completes_executeBatch {iterations processed total : Nat} {trace : List WorkerObservation}
    (completes : Completes (executeBatch lower settings workerId iterations processed) trace
      (.ok total)) :
    total = processed + itemsTaken trace ∧ (0 < iterations → ∃ answer,
      (⟨.claim workerId, .ok answer⟩ : WorkerObservation) ∈ trace) := by
  induction iterations generalizing processed trace with
  | zero =>
    obtain ⟨rfl, rfl⟩ := completes_pure_iff.mp completes
    exact ⟨rfl, fun impossible => absurd impossible (Nat.lt_irrefl 0)⟩
  | succ iterations inductionHypothesis =>
    obtain ⟨claimed, rest, rfl, continued⟩ := Completes.call completes
    refine ⟨?_, fun _ => ⟨claimed, List.mem_cons_self⟩⟩
    cases claimed with
    | none =>
      obtain ⟨rfl, rfl⟩ := completes_pure_iff.mp continued
      rfl
    | some run =>
      obtain ⟨before, after, _, rfl, executed, later⟩ := Completes.bind continued
      obtain ⟨counted, -⟩ := inductionHypothesis later
      have none := itemsTaken_of_calls (calls_processClaim run _ _) executed
      have one : itemsTaken (⟨.claim workerId, .ok (some run)⟩ :: (before ++ after)) =
          1 + itemsTaken (before ++ after) := by
        rw [Nat.add_comm]
        exact List.countP_cons_of_pos rfl
      rw [one, itemsTaken_append, none, counted]
      omega

/-- A cycle that is due for a recovery makes one, and one that is not keeps the time of
the last. -/
theorem completes_recoverIfDue {now lastRecovery recovery : ℚ} {trace : List WorkerObservation}
    (completes : Completes (recoverIfDue settings now lastRecovery) trace (.ok recovery)) :
    itemsTaken trace = 0 ∧ (recovery = now ∧ (∃ counts,
        (⟨.recoverStale settings.workerStaleSeconds settings.workerRecoveryBatchSize,
          .ok counts⟩ : WorkerObservation) ∈ trace) ∨
      recovery = lastRecovery ∧ now - lastRecovery < recoveryPeriod settings) := by
  unfold recoverIfDue at completes
  split at completes
  · obtain ⟨counts, rest, rfl, continued⟩ := Completes.call completes
    obtain ⟨rfl, rfl⟩ := completes_pure_iff.mp continued
    exact ⟨rfl, Or.inl ⟨rfl, counts, List.mem_singleton_self _⟩⟩
  · next early =>
    obtain ⟨rfl, rfl⟩ := completes_pure_iff.mp completes
    exact ⟨rfl, Or.inr ⟨rfl, not_le.mp early⟩⟩

/-- What a cycle has done that began at `now` and returned. -/
structure Served (settings : Settings) (workerId : Str) (lastRecovery : ℚ)
    (trace : List WorkerObservation) (now recovery : ℚ) (processed : Nat) : Prop where
  began : trace.head? = some ⟨.monotonic, .ok now⟩
  recovered : recovery = now ∧ (∃ counts,
      (⟨.recoverStale settings.workerStaleSeconds settings.workerRecoveryBatchSize,
        .ok counts⟩ : WorkerObservation) ∈ trace) ∨
    recovery = lastRecovery ∧ now - lastRecovery < recoveryPeriod settings
  summaries : ∃ answer,
    (⟨.claimSummary workerId settings.workerStaleSeconds, .ok answer⟩ : WorkerObservation) ∈ trace
  runs : ∃ answer, (⟨.claim workerId, .ok answer⟩ : WorkerObservation) ∈ trace
  processed : processed = itemsTaken trace

theorem completes_pollCycle {lastRecovery recovery : ℚ} {processed : Nat}
    {trace : List WorkerObservation} (batch : 1 ≤ settings.workerBatchSize)
    (completes : Completes (pollCycle lower settings workerId lastRecovery) trace
      (.ok (recovery, processed))) :
    ∃ now, Served settings workerId lastRecovery trace now recovery processed := by
  obtain ⟨now, _, rfl, afterClock⟩ := Completes.call completes
  obtain ⟨recovering, _, recovered, rfl, recovers, afterRecovery⟩ := Completes.bind afterClock
  obtain ⟨delivering, _, delivered, rfl, delivers, afterDelivery⟩ := Completes.bind afterRecovery
  obtain ⟨executing, _, total, rfl, executes, returned⟩ := Completes.bind afterDelivery
  obtain ⟨rfl, same⟩ := completes_pure_iff.mp returned
  cases same
  obtain ⟨quiet, recovery⟩ := completes_recoverIfDue recovers
  obtain ⟨summaries, asked⟩ := completes_deliverBatch delivers
  obtain ⟨runs, claimed⟩ := completes_executeBatch executes
  obtain ⟨item, itemAsked⟩ := asked (by omega)
  obtain ⟨run, runAsked⟩ := claimed (by omega)
  refine ⟨now, rfl, ?_, ⟨item, ?_⟩, ⟨run, ?_⟩, ?_⟩
  · refine recovery.imp_left (fun made => ⟨made.1, ?_⟩)
    obtain ⟨counts, member⟩ := made.2
    exact ⟨counts, List.mem_cons_of_mem _ (List.mem_append_left _ member)⟩
  · exact List.mem_cons_of_mem _ (List.mem_append_right _ (List.mem_append_left _ itemAsked))
  · refine List.mem_cons_of_mem _ (List.mem_append_right _ (List.mem_append_right _ ?_))
    exact List.mem_append_left _ runAsked
  · have clock : itemsTaken (⟨.monotonic, .ok now⟩ ::
        (recovering ++ (delivering ++ (executing ++ [])))) =
        itemsTaken (recovering ++ (delivering ++ (executing ++ []))) :=
      List.countP_cons_of_neg (by simp [takesItem])
    rw [clock, List.append_nil, itemsTaken_append, itemsTaken_append, quiet, runs, summaries]
    omega

end Parts

/-! ## The trace of a cycle -/

namespace WorkerState

variable {α : Type} {program : WorkerCoroutine α} {state state' : WorkerState α}

/-- What an act ends: the call at which the coroutine stands, if it is resumed. -/
def observed (state : WorkerState α) : WorkerAct → List WorkerObservation
  | .resume answers =>
    match state.program with
    | .done _ => []
    | .call request _ =>
      if state.cancelling && request.suspends then [⟨request, .error .cancelled⟩]
      else ((state.outcome? answers request).map (fun outcome => ⟨request, outcome⟩)).toList
  | .execution _ => []
  | .heartbeat _ _ => []

/-- An act ends the call at which the coroutine stands, or leaves the coroutine there. -/
theorem leaves_of_next {act : WorkerAct} {trace : List WorkerObservation}
    (leaves : Leaves program trace state.program) (taken : state.next act = some state') :
    Leaves program (trace ++ state.observed act) state'.program := by
  cases act with
  | resume answers =>
    simp only [next, resume] at taken
    cases stands : state.program with
    | done outcome =>
      rw [stands] at taken
      cases taken
    | call request rest =>
      rw [stands] at taken leaves
      simp only at taken
      simp only [observed, stands]
      by_cases interrupted : (state.cancelling && request.suspends) = true
      · rw [if_pos interrupted] at taken ⊢
        split at taken
        · cases taken
          rw [program_advanced]
          exact leaves.concat _
        · cases taken
      · rw [if_neg interrupted] at taken ⊢
        obtain ⟨outcome, answered, rfl⟩ := Option.map_eq_some_iff.mp taken
        rw [answered, program_advanced]
        exact leaves.concat outcome
  | execution | heartbeat =>
    simp only [next] at taken
    split at taken
    · obtain ⟨tasks, -, rfl⟩ := Option.map_eq_some_iff.mp taken
      rw [observed, List.append_nil]
      exact leaves
    · cases taken

end WorkerState

namespace PollState

variable {lower : Str → Str} {settings : Settings} {workerId : Str} {lastRecovery : ℚ}
  {program : WorkerCoroutine (ℚ × Nat)} {start state state' : PollState}
  {trace : List WorkerObservation}

def observed (state : PollState) : PollAct → List WorkerObservation
  | .cycle act => state.cycle.observed act
  | .stop => []
  | .cancelCycle => []
  | .cycleDone => []

/-- A run, with the calls of the cycle that end in it. -/
inductive Observes (start : PollState) : List WorkerObservation → PollState → Prop
  | nothing : Observes start [] start
  | step {before after : PollState} {act : PollAct} {trace : List WorkerObservation}
      (earlier : Observes start trace before) (taken : next act before = some after) :
      Observes start (trace ++ before.observed act) after

/-- Every run has its trace. -/
theorem observes_iff_runs : (∃ trace, Observes start trace state) ↔ Runs Step start state := by
  constructor
  · rintro ⟨trace, observes⟩
    induction observes with
    | nothing => exact .refl
    | step earlier taken inductionHypothesis => exact inductionHypothesis.tail ⟨_, taken⟩
  · intro run
    induction run with
    | refl => exact ⟨[], .nothing⟩
    | tail _ step inductionHypothesis =>
      obtain ⟨trace, earlier⟩ := inductionHypothesis
      obtain ⟨act, taken⟩ := step
      exact ⟨_, .step earlier taken⟩

/-- The trace leads to where the cycle stands, and a result that was returned is the
cycle's. -/
structure Tracked (program : WorkerCoroutine (ℚ × Nat)) (trace : List WorkerObservation)
    (state : PollState) : Prop where
  leaves : Leaves program trace state.cycle.program
  result : ∀ result, state.watch = .returned (.ok (some result)) →
    state.cycle.program = .done (.ok result)

theorem Tracked.step {act : PollAct} (tracked : Tracked program trace state)
    (taken : next act state = some state') :
    Tracked program (trace ++ state.observed act) state' := by
  obtain ⟨leaves, result⟩ := tracked
  cases act with
  | cycle act =>
    obtain ⟨cycle, next, rfl⟩ := Option.map_eq_some_iff.mp taken
    refine ⟨WorkerState.leaves_of_next leaves next, fun value returned => ?_⟩
    have finished : state.cycle.program = .done (.ok value) := result value returned
    cases WorkerState.moved_of_next next with
    | interrupted stands | ended stands =>
      rw [finished] at stands
      cases stands
    | other => exact finished
  | stop =>
    simp only [next] at taken
    rw [observed, List.append_nil]
    split at taken
    · cases taken
      exact ⟨leaves, result⟩
    · cases taken
  | cancelCycle =>
    obtain ⟨-, -, cycle, watch⟩ := of_cancelCycle taken
    rw [observed, List.append_nil]
    refine ⟨?_, fun value returned => ?_⟩
    · rw [cycle, WorkerState.program_cancel]
      exact leaves
    · rw [watch] at returned
      cases returned
  | cycleDone =>
    simp only [next] at taken
    rw [observed, List.append_nil]
    split at taken
    · next outcome ended watching =>
      cases taken
      refine ⟨leaves, fun value returned => ?_⟩
      cases outcome with
      | ok own =>
        cases returned
        exact ended
      | error error => cases returned
    · cases taken
      exact ⟨leaves, fun value returned => by cases returned⟩
    · cases taken

/-- A cycle whose result was returned has completed with it. -/
theorem completes_of_returned {result : ℚ × Nat}
    (observes : Observes (initial lower settings workerId lastRecovery) trace state)
    (returned : state.watch = .returned (.ok (some result))) :
    Completes (pollCycle lower settings workerId lastRecovery) trace (.ok result) := by
  have tracked : Tracked (pollCycle lower settings workerId lastRecovery) trace state := by
    clear returned
    induction observes with
    | nothing =>
      refine ⟨?_, fun _ impossible => by cases impossible⟩
      rw [initial, WorkerState.initial, WorkerState.program_advanced]
      exact .nothing _
    | step earlier taken inductionHypothesis => exact inductionHypothesis.step taken
  rw [Completes, ← tracked.result result returned]
  exact tracked.leaves

end PollState

/-! ## The turns of the loop -/

/-- The cycle of turn `k` was reached and raised. -/
def cycleRaised (rounds : Stream'.Seq Round) (k : Nat) : Bool :=
  (rounds.get? k).any (fun round => round.cycle matches .error _)

/-- The cycle of turn `k` returned. -/
def CycleReturned (rounds : Stream'.Seq Round) (k : Nat) (recovery : ℚ) (processed : Nat) : Prop :=
  ∃ round, rounds.get? k = some round ∧ round.cycle = .ok (some (recovery, processed))

theorem waitIfIdle_goesOn {processed : Nat} {wait : Except Raised Unit} {carried after : Carried}
    {waits : Bool} (turned : waitIfIdle processed wait carried = .goesOn waits after) :
    after = carried := by
  unfold waitIfIdle at turned
  split at turned
  · cases wait with
    | ok done =>
      cases turned
      rfl
    | error error =>
      simp only at turned
      split at turned
      · cases turned
        rfl
      · cases turned
  · cases turned
    rfl

/-- The wait does not end the loop without an error. -/
theorem waitIfIdle_leaves {processed : Nat} {wait : Except Raised Unit} {carried : Carried}
    {result : Except Raised Unit}
    (turned : waitIfIdle processed wait carried = .leaves result) :
    ∃ error, result = .error error := by
  unfold waitIfIdle at turned
  split at turned
  · cases wait with
    | ok done => cases turned
    | error error =>
      simp only at turned
      split at turned
      · cases turned
      · cases turned
        exact ⟨error, rfl⟩
  · cases turned

/-- A turn that ends the loop without an error met the stop event at its head, or had a
cycle that returned `None`. -/
theorem loopTurn_leaves {maxPollFailures : Int} {round : Round} {carried : Carried}
    (turned : loopTurn maxPollFailures round carried = .leaves (.ok ())) :
    round.stopSet = true ∨ round.cycle = .ok none := by
  unfold loopTurn at turned
  split at turned
  · next stopped => exact Or.inl stopped
  · split at turned
    · next returned => exact Or.inr returned
    · obtain ⟨error, impossible⟩ := waitIfIdle_leaves turned
      cases impossible
    · split at turned
      · cases turned
      · split at turned
        · split at turned
          · obtain ⟨error, impossible⟩ := waitIfIdle_leaves turned
            cases impossible
          · cases turned
        · cases turned

/-- A turn after which the loop goes on has had a cycle that returned, or one that raised
and was not one too many. -/
theorem loopTurn_goesOn {maxPollFailures : Int} {round : Round} {carried after : Carried}
    {waits : Bool} (turned : loopTurn maxPollFailures round carried = .goesOn waits after) :
    round.stopSet = false ∧
      ((∃ processed, round.cycle = .ok (some (after.lastRecovery, processed)) ∧
          after.consecutiveFailures = 0) ∨
        (∃ error, round.cycle = .error error) ∧ after.lastRecovery = carried.lastRecovery ∧
          after.consecutiveFailures = carried.consecutiveFailures + 1 ∧
          after.consecutiveFailures < maxPollFailures) := by
  unfold loopTurn at turned
  split at turned
  · cases turned
  · next unset =>
    refine ⟨Bool.eq_false_iff.mpr unset, ?_⟩
    split at turned
    · cases turned
    · next recovery processed returned =>
      obtain rfl := waitIfIdle_goesOn turned
      exact Or.inl ⟨processed, returned, rfl⟩
    · next error raised =>
      split at turned
      · cases turned
      · split at turned
        · unfold nextPollFailureCount at turned
          simp only [ge_iff_le] at turned
          by_cases reached : maxPollFailures ≤ carried.consecutiveFailures + 1
          · rw [if_pos reached] at turned
            cases turned
          · rw [if_neg reached] at turned
            obtain rfl := waitIfIdle_goesOn turned
            exact Or.inr ⟨⟨error, raised⟩, rfl, rfl, not_le.mp reached⟩
        · cases turned

section Turns

variable {lower : Str → Str} {settings : Settings} {workerId : Str}
  {rounds : Stream'.Seq Round} {carried : Carried} {i : Nat}

theorem loopAt_succ (reached : loopAt settings rounds (i + 1) = some carried) :
    ∃ before round waits, loopAt settings rounds i = some before ∧ rounds.get? i = some round ∧
      loopTurn settings.workerMaxPollFailures round before = .goesOn waits carried := by
  obtain ⟨before, earlier, round, met, turned⟩ := by
    simpa only [loopAt, Option.bind_eq_bind, Option.bind_eq_some_iff] using reached
  obtain ⟨waits, turned⟩ := (Turn.carried?_eq_some_iff _ _).mp turned
  exact ⟨before, round, waits, earlier, met, turned⟩

/-- A turn is reached through all turns before it. -/
theorem loopAt_earlier (reached : loopAt settings rounds i = some carried) {j : Nat}
    (earlier : j ≤ i) : ∃ before, loopAt settings rounds j = some before := by
  induction i generalizing carried with
  | zero =>
    obtain rfl := Nat.le_zero.mp earlier
    exact ⟨carried, reached⟩
  | succ i inductionHypothesis =>
    rcases Nat.le_succ_iff.mp earlier with older | rfl
    · obtain ⟨before, _, _, arrived, -, -⟩ := loopAt_succ reached
      exact inductionHypothesis arrived older
    · exact ⟨carried, reached⟩

/-- The failures carried are those in succession, and too few to give up. -/
theorem failures_carried (positive : 1 ≤ settings.workerMaxPollFailures)
    (reached : loopAt settings rounds i = some carried) :
    carried.consecutiveFailures = streak (cycleRaised rounds) i ∧
      carried.consecutiveFailures < settings.workerMaxPollFailures := by
  induction i generalizing carried with
  | zero =>
    cases reached
    exact ⟨rfl, Int.lt_of_lt_of_le Int.zero_lt_one positive⟩
  | succ i inductionHypothesis =>
    obtain ⟨before, round, waits, arrived, met, turned⟩ := loopAt_succ reached
    obtain ⟨counted, -⟩ := inductionHypothesis arrived
    rcases (loopTurn_goesOn turned).2 with
      ⟨processed, returned, reset⟩ | ⟨⟨error, raised⟩, -, longer, few⟩
    · have unbroken : cycleRaised rounds i = false := by
        simp only [cycleRaised, met, returned, Option.any_some]
      rw [streak, unbroken, reset]
      exact ⟨rfl, Int.lt_of_lt_of_le Int.zero_lt_one positive⟩
    · have broken : cycleRaised rounds i = true := by
        simp only [cycleRaised, met, raised, Option.any_some]
      rw [streak, broken, if_pos rfl, longer, counted, Nat.cast_succ]
      exact ⟨rfl, by rw [← counted, ← longer]; exact few⟩

/-- A cycle that is over and did not raise has returned. -/
theorem returned_or_raised (reached : loopAt settings rounds (i + 1) = some carried) :
    (∃ processed, CycleReturned rounds i carried.lastRecovery processed) ∨
      cycleRaised rounds i = true := by
  obtain ⟨before, round, waits, -, met, turned⟩ := loopAt_succ reached
  rcases (loopTurn_goesOn turned).2 with ⟨processed, returned, -⟩ | ⟨⟨error, raised⟩, -⟩
  · exact Or.inl ⟨processed, round, met, returned⟩
  · exact Or.inr (by simp only [cycleRaised, met, raised, Option.any_some])

/-- Of as many cycles in succession as may fail, one returns. -/
theorem one_returns (positive : 1 ≤ settings.workerMaxPollFailures)
    (reached : loopAt settings rounds i = some carried) {first : Nat}
    (inside : first + settings.workerMaxPollFailures ≤ i) :
    ∃ j recovery processed, first ≤ j ∧ j < first + settings.workerMaxPollFailures ∧
      CycleReturned rounds j recovery processed := by
  obtain ⟨length, long⟩ := Int.eq_ofNat_of_zero_le (by omega : 0 ≤ settings.workerMaxPollFailures)
  obtain ⟨atEnd, arrived⟩ := loopAt_earlier reached (by omega : first + length ≤ i)
  obtain ⟨counted, few⟩ := failures_carried positive arrived
  have broken : ¬ length ≤ streak (cycleRaised rounds) (first + length) := by omega
  rw [le_streak_iff] at broken
  push Not at broken
  obtain ⟨j, late, early, unraised⟩ := broken (by omega)
  obtain ⟨after, next⟩ := loopAt_earlier reached (by omega : j + 1 ≤ i)
  rcases returned_or_raised next with ⟨processed, returned⟩ | raised
  · exact ⟨j, _, processed, by omega, by omega, returned⟩
  · exact absurd raised unraised

/-- The cycle of each turn that is reached is one of `_poll_cycle_or_stop`, called with the
recovery time that is carried. The calls that ended in it are those in `traces`. -/
def Attends (lower : Str → Str) (settings : Settings) (workerId : Str)
    (rounds : Stream'.Seq Round) (traces : Nat → List WorkerObservation) : Prop :=
  ∀ i carried round, loopAt settings rounds i = some carried → rounds.get? i = some round →
    round.stopSet = false → ∃ state : PollState,
      PollState.Observes (.initial lower settings workerId carried.lastRecovery) (traces i) state ∧
        state.watch = .returned round.cycle

/-- A cycle before turn `i` that began at `time` has recovered what was stale. -/
def RecoveredAt (settings : Settings) (traces : Nat → List WorkerObservation) (i : Nat)
    (time : ℚ) : Prop :=
  ∃ j < i, (traces j).head? = some ⟨.monotonic, .ok time⟩ ∧ ∃ counts,
    (⟨.recoverStale settings.workerStaleSeconds settings.workerRecoveryBatchSize,
      .ok counts⟩ : WorkerObservation) ∈ traces j

variable {traces : Nat → List WorkerObservation}

theorem RecoveredAt.later {time : ℚ} {j : Nat} (recovered : RecoveredAt settings traces i time)
    (late : i ≤ j) : RecoveredAt settings traces j time := by
  obtain ⟨k, early, cycle⟩ := recovered
  exact ⟨k, Nat.lt_of_lt_of_le early late, cycle⟩

/-- A cycle that returned has served the queue. -/
theorem served_of_returned (batch : 1 ≤ settings.workerBatchSize)
    (attends : Attends lower settings workerId rounds traces)
    (arrived : loopAt settings rounds i = some carried) {round : Round}
    (met : rounds.get? i = some round) (unset : round.stopSet = false) {recovery : ℚ}
    {processed : Nat} (returned : round.cycle = .ok (some (recovery, processed))) :
    ∃ now, Served settings workerId carried.lastRecovery (traces i) now recovery processed := by
  obtain ⟨state, observes, ended⟩ := attends i carried round arrived met unset
  exact completes_pollCycle batch (PollState.completes_of_returned observes (returned ▸ ended))

/-- The recovery time that is carried is that of a recovery. -/
theorem recovery_carried (batch : 1 ≤ settings.workerBatchSize)
    (attends : Attends lower settings workerId rounds traces)
    (reached : loopAt settings rounds i = some carried) :
    carried.lastRecovery = 0 ∨ RecoveredAt settings traces i carried.lastRecovery := by
  induction i generalizing carried with
  | zero =>
    cases reached
    exact Or.inl rfl
  | succ i inductionHypothesis =>
    obtain ⟨before, round, waits, arrived, met, turned⟩ := loopAt_succ reached
    have earlier := (inductionHypothesis arrived).imp_right (fun recovered =>
      recovered.later (Nat.le_succ i))
    obtain ⟨unset, ⟨processed, returned, -⟩ | ⟨-, kept, -⟩⟩ := loopTurn_goesOn turned
    · obtain ⟨now, served⟩ := served_of_returned batch attends arrived met unset returned
      rcases served.recovered with ⟨fresh, made⟩ | ⟨kept, -⟩
      · exact Or.inr ⟨i, Nat.lt_succ_self i, fresh ▸ served.began, made⟩
      · exact kept ▸ earlier
    · exact kept ▸ earlier

/-- The stop event is set before turn `i` ends. -/
def StoppedIn (lower : Str → Str) (settings : Settings) (workerId : Str) (round : Round)
    (lastRecovery : ℚ) (trace : List WorkerObservation) : Prop :=
  round.stopSet = true ∨ ∃ state : PollState,
    PollState.Observes (.initial lower settings workerId lastRecovery) trace state ∧
      state.watch = .returned (.ok none) ∧ state.stopSet = true

/-- The loop ends without an error only where it is stopped. -/
theorem stoppedIn_of_leaves (attends : Attends lower settings workerId rounds traces)
    (reached : loopAt settings rounds i = some carried) {round : Round}
    (met : rounds.get? i = some round)
    (left : loopTurn settings.workerMaxPollFailures round carried = .leaves (.ok ())) :
    StoppedIn lower settings workerId round carried.lastRecovery (traces i) := by
  rcases loopTurn_leaves left with stopped | returned
  · exact Or.inl stopped
  · by_cases unset : round.stopSet = false
    · obtain ⟨state, observes, ended⟩ := attends i carried round reached met unset
      rw [returned] at ended
      refine Or.inr ⟨state, observes, ended, ?_⟩
      by_contra running
      have run := PollState.observes_iff_runs.mp ⟨_, observes⟩
      obtain ⟨outcome, impossible⟩ :=
        returned_of_unset run (Bool.eq_false_iff.mpr running) ended
      cases outcome <;> cases impossible
    · exact Or.inl (Bool.not_eq_false _ ▸ unset)

/-- As long as the loop goes on, of every `worker_max_poll_failures` cycles in succession
one returns; a cycle that returns has asked for a summary and for a run, counts what it
was given, and knows of a recovery within the period, or of the start of the clock. The
loop ends without an error only where it is stopped. -/
theorem worker_keeps_polling (batch : 1 ≤ settings.workerBatchSize)
    (positive : 1 ≤ settings.workerMaxPollFailures)
    (attends : Attends lower settings workerId rounds traces)
    (reached : loopAt settings rounds i = some carried) :
    (∀ first : Nat, first + settings.workerMaxPollFailures ≤ i →
      ∃ j recovery processed, first ≤ j ∧ j < first + settings.workerMaxPollFailures ∧
        CycleReturned rounds j recovery processed) ∧
    (∀ j recovery processed, j < i → CycleReturned rounds j recovery processed →
      ∃ before now, loopAt settings rounds j = some before ∧
        Served settings workerId before.lastRecovery (traces j) now recovery processed ∧
        (recovery = 0 ∨ RecoveredAt settings traces (j + 1) recovery)) ∧
    ∀ round, rounds.get? i = some round →
      loopTurn settings.workerMaxPollFailures round carried = .leaves (.ok ()) →
        StoppedIn lower settings workerId round carried.lastRecovery (traces i) := by
  refine ⟨fun first inside => one_returns positive reached inside, ?_,
    fun round met left => stoppedIn_of_leaves attends reached met left⟩
  rintro j recovery processed early ⟨round, met, returned⟩
  obtain ⟨after, next⟩ := loopAt_earlier reached (Nat.succ_le_of_lt early)
  have recovered := recovery_carried batch attends next
  obtain ⟨before, round', waits, arrived, met', turned⟩ := loopAt_succ next
  obtain rfl : round' = round := Option.some.inj (met'.symm.trans met)
  obtain ⟨unset, ⟨own, same, -⟩ | ⟨⟨error, raised⟩, -⟩⟩ := loopTurn_goesOn turned
  · obtain ⟨rfl, rfl⟩ : after.lastRecovery = recovery ∧ own = processed := by
      simpa using same.symm.trans returned
    obtain ⟨now, served⟩ := served_of_returned batch attends arrived met unset returned
    exact ⟨before, now, arrived, served, recovered⟩
  · rw [raised] at returned
    cases returned

end Turns

/-! ## An idle worker -/

/-- The loop ends with the first cycle that fails. -/
def idleSettings : Settings := { PollState.smallSettings with workerMaxPollFailures := 1 }

/-- Nothing is waiting, and the clock says a hundred seconds. -/
def idleAnswers : (call : WorkerCall) → Except Raised call.Answer
  | .monotonic => .ok 100
  | .recoverStale _ _ => .ok (1, 0)
  | .claimSummary _ _ => .ok none
  | .claim _ => .ok none
  | request => PollState.smallAnswers request

/-- The cycle recovers what is stale, asks for a summary and for a run, and is done. -/
def idleActs : List PollAct := List.replicate 4 (.cycle (.resume idleAnswers)) ++ [.cycleDone]

def idleStart : PollState := .initial id idleSettings (lit "w") 0

def idleCycle : PollState := (replay PollState.next idleActs idleStart).getD idleStart

def idleRound : Round where
  stopSet := false
  cycle := .ok (some (100, 0))
  wait := .error (.builtin [.timeoutError, .other (lit "OSError")])

def idleRounds : Stream'.Seq Round := .ofList [idleRound]

/-- What `_poll_cycle_or_stop` has returned. -/
def Watch.result? : Watch → Option (ℚ × Nat)
  | .returned (.ok result) => result
  | _ => none

/-- The calls of the cycle end in the order in which it makes them. -/
theorem idleCycle_observes : ∃ trace, PollState.Observes idleStart trace idleCycle ∧
    idleCycle.watch = .returned (.ok (some (100, 0))) := by
  have ran : (replay PollState.next idleActs idleStart).isSome = true := by decide +kernel
  obtain ⟨state, reached⟩ := Option.isSome_iff_exists.mp ran
  have same : idleCycle = state := by rw [idleCycle, reached, Option.getD_some]
  have run : Runs PollState.Step idleStart idleCycle :=
    same ▸ runs_of_replay (fun act _ _ taken => ⟨act, taken⟩) reached
  obtain ⟨trace, observes⟩ := PollState.observes_iff_runs.mpr run
  have returned : idleCycle.watch.result? = some (100, 0) := by decide +kernel
  refine ⟨trace, observes, ?_⟩
  unfold Watch.result? at returned
  split at returned
  · next ended => rw [ended, returned]
  · cases returned

/-- A worker that tolerates no failure has attended to an empty queue in its first turn. -/
theorem worker_keeps_polling_idle : ∃ (traces : Nat → List WorkerObservation) (now : ℚ),
    CycleReturned idleRounds 0 100 0 ∧
      Served idleSettings (lit "w") 0 (traces 0) now 100 0 ∧
      RecoveredAt idleSettings traces 1 100 := by
  obtain ⟨trace, observes, ended⟩ := idleCycle_observes
  have attends : Attends id idleSettings (lit "w") idleRounds (fun _ => trace) := by
    intro i carried round reached met unset
    cases i with
    | zero =>
      cases reached
      cases met
      exact ⟨idleCycle, observes, ended⟩
    | succ i => cases met
  have reached : loopAt idleSettings idleRounds 1 = some ⟨100, 0⟩ := rfl
  obtain ⟨returns, served, -⟩ := worker_keeps_polling (by decide) (by decide) attends reached
  obtain ⟨j, recovery, processed, -, early, returned⟩ := returns 0 (by decide)
  have only : j = 0 := Nat.lt_one_iff.mp (by simpa [idleSettings] using early)
  subst only
  obtain ⟨before, now, arrived, serves, recovered⟩ :=
    served 0 recovery processed (Nat.lt_succ_self 0) returned
  obtain ⟨round, met, result⟩ := returned
  cases met
  cases result
  cases arrived
  exact ⟨fun _ => trace, now, ⟨idleRound, rfl, rfl⟩, serves, recovered.resolve_left (by norm_num)⟩

end RlmApi
