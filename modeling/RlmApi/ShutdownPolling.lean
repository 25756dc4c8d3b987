import RlmApi.WorkerTasks

/-!
# Shutdown

`_poll_cycle_or_stop` cancels the poll cycle when the stop event is set. The cycle then
stops polling unless the `CancelledError` is taken for another one: `process_claim`
returns where it finds the lease lost, because the heartbeat loop cancels the execution
for that reason, and the loop over the batch goes on.
-/

namespace RlmApi

open Coroutine Worker

/-! ## The poll cycle and its watcher -/

/-- Where `_poll_cycle_or_stop` is: waiting for the first of two tasks, waiting for the
cycle it has cancelled, or done. -/
inductive Watch where
  | watching
  | stopping
  | returned (result : Except Raised (Option (ℚ × Nat)))

structure PollState where
  cycle : WorkerState (ℚ × Nat)
  stopSet : Bool
  watch : Watch

inductive PollAct where
  | cycle (act : WorkerAct)
  /-- A signal sets the stop event. -/
  | stop
  /-- `_poll_cycle_or_stop` finds the stop event set, and cancels the cycle. -/
  | cancelCycle
  /-- `_poll_cycle_or_stop` finds the cycle done. -/
  | cycleDone

namespace PollState

def initial (lower : Str → Str) (settings : Settings) (workerId : Str) (lastRecovery : ℚ) :
    PollState :=
  ⟨.initial (pollCycle lower settings workerId lastRecovery), false, .watching⟩

def next (act : PollAct) (state : PollState) : Option PollState :=
  match act with
  | .cycle act => (state.cycle.next act).map (fun cycle => { state with cycle := cycle })
  | .stop => if state.cycle.suspended then some { state with stopSet := true } else none
  | .cancelCycle =>
    match state.watch with
    | .watching =>
      if state.cycle.suspended && state.stopSet then
        some { state with cycle := state.cycle.cancel, watch := .stopping }
      else none
    | _ => none
  | .cycleDone =>
    match state.cycle.program, state.watch with
    | .done outcome, .watching => some { state with watch := .returned (outcome.map some) }
    | .done _, .stopping => some { state with watch := .returned (.ok none) }
    | _, _ => none

def Step (before after : PollState) : Prop := ∃ act, next act before = some after

end PollState

/-- The calls of `store.claim`. -/
def countClaim (claims : Nat) : WorkerCall → Nat
  | .claim _ => claims + 1
  | _ => claims

def claimsMade (calls : List WorkerCall) : Nat := calls.foldl countClaim 0

theorem claimsMade_concat (calls : List WorkerCall) (call : WorkerCall) :
    claimsMade (calls ++ [call]) = countClaim (claimsMade calls) call := by
  simp [claimsMade]

/-- A `CancelledError` is about to be taken for that of a lost lease, although the batch
has iterations left. -/
def swallows {α : Type} (batch : Nat) (state : WorkerState α) : Bool :=
  match state.program with
  | .call .leaseLost _ =>
    state.tasks.any (fun tasks => tasks.leaseLost) && claimsMade state.calls < batch
  | _ => false

/-! ## What the coroutines do when they are cancelled -/

/-- From here on nothing new is taken, unless a lost lease is found before the last
claim of the batch. -/
def quiet (batch : Nat) : Contract WorkerCall WorkerCall.Answer Raised Nat where
  track := countClaim
  possible claims request outcome :=
    match request, outcome with
    | .leaseLost, .ok true => batch ≤ claims
    | _, _ => True
  wanted request := request.takes = false

def Quiet {α : Type} (batch claims : Nat) (program : WorkerCoroutine α) : Prop :=
  program.Ensures (quiet batch) (fun _ _ => True) claims

/-- An exception is raised, or the batch is used up. -/
def Ends {α : Type} (batch claims : Nat) (outcome : Except Raised α) : Prop :=
  (∃ error, outcome = .error error) ∨ batch ≤ claims

/-- A cancellation is raised wherever it arrives, and no claim is made. -/
abbrev Plain {α : Type} (program : WorkerCoroutine α) : Prop :=
  program.Transparent .cancelled (fun request => request.suspends = true) countClaim

/-- What a cancellation leaves, wherever it arrives. -/
abbrev Cancelled {α : Type} (after : Nat → WorkerCoroutine α → Prop)
    (program : WorkerCoroutine α) (claims : Nat) : Prop :=
  program.Interrupted .cancelled (fun request => request.suspends = true) countClaim after claims

theorem countClaim_of_quiet {request : WorkerCall} (quiet : request.takes = false) (claims : Nat) :
    countClaim claims request = claims := by
  cases request with
  | claim workerId => cases quiet
  | _ => rfl

theorem plain_ask {request : WorkerCall} (quiet : request.takes = false) : Plain (ask request) :=
  transparent_invoke (countClaim_of_quiet quiet)

theorem plain_computed {α : Type} (result : Except PyError α) : Plain (computed result) := by
  cases result with
  | ok value => exact transparent_done _
  | error error => exact transparent_done _

theorem plain_recordFailure (run : ClaimedRun) (publicError : String) (exceptionType : Str)
    (retryable : Bool) : Plain (recordFailure run publicError exceptionType retryable) :=
  transparent_bind (plain_ask rfl) (fun _ => transparent_done _)

theorem plain_completeClaim (run : ClaimedRun) (started : ℚ) :
    Plain (completeClaim run started) := by
  refine transparent_bind (plain_ask rfl) (fun executed => ?_)
  refine transparent_bind (plain_ask rfl) (fun now => ?_)
  refine transparent_bind (plain_computed _) (fun prediction => ?_)
  refine transparent_bind (plain_computed _) (fun report => ?_)
  exact transparent_bind (plain_ask rfl) (fun _ => plain_ask rfl)

theorem plain_claimHandler (lower : Str → Str) (run : ClaimedRun) (error : Raised) :
    Plain (claimHandler lower run error) := by
  unfold claimHandler
  split
  · exact plain_recordFailure _ _ _ _
  · split
    · refine transparent_bind (plain_ask rfl) (fun lost => ?_)
      split <;> exact transparent_done _
    · split
      · exact plain_recordFailure _ _ _ _
      · exact transparent_done _

theorem plain_stopTasks : Plain stopTasks :=
  transparent_bind (plain_ask rfl) (fun _ => plain_ask rfl)

theorem plain_deliverSummary (expected : Str × Int) (item : SummaryOutboxItem) :
    Plain (deliverSummary expected item) := by
  unfold deliverSummary
  split
  · exact transparent_bind (plain_ask rfl) (fun _ => transparent_done _)
  · refine transparent_tryExcept ?_ rfl (fun error => ?_)
    · refine transparent_bind (plain_ask rfl) (fun _ => ?_)
      exact transparent_bind (plain_ask rfl) (fun _ => transparent_done _)
    · split
      · exact transparent_done _
      · split
        · exact transparent_bind (plain_ask rfl) (fun _ => transparent_done _)
        · exact transparent_done _

theorem plain_recoverIfDue (settings : Settings) (now lastRecovery : ℚ) :
    Plain (recoverIfDue settings now lastRecovery) := by
  unfold recoverIfDue
  split
  · exact transparent_bind (plain_ask rfl) (fun _ => transparent_done _)
  · exact transparent_done _

theorem plain_deliverBatch (settings : Settings) (workerId : Str) (iterations processed : Nat) :
    Plain (deliverBatch settings workerId iterations processed) := by
  induction iterations generalizing processed with
  | zero => exact transparent_done _
  | succ iterations ih =>
    unfold deliverBatch
    refine transparent_bind (transparent_invoke (fun _ => rfl)) (fun claimed => ?_)
    cases claimed with
    | none => exact transparent_done _
    | some item => exact transparent_bind (plain_deliverSummary _ _) (fun _ => ih _)

/-- What is raised ends everything that comes after it. -/
theorem quiet_raise {α : Type} {batch claims : Nat} (error : Raised) :
    (raise error : WorkerCoroutine α).Ensures (quiet batch) (Ends batch) claims :=
  Or.inl ⟨error, rfl⟩

/-- The cleanup leaves an end an end. -/
theorem ends_stopTasks {α : Type} {batch claims : Nat} {outcome : Except Raised α}
    (ends : Ends batch claims outcome) :
    (stopTasks.andThen (afterReturn (fun _ => .done outcome))).Ensures (quiet batch) (Ends batch)
      claims := by
  rw [ensures_andThen_iff]
  refine ⟨rfl, fun first _ => ?_⟩
  cases first with
  | error error => exact quiet_raise error
  | ok done =>
    refine ⟨rfl, fun second _ => ?_⟩
    cases second with
    | error error => exact quiet_raise error
    | ok done => exact ends

section ProcessClaim

variable (lower : Str → Str) (run : ClaimedRun)

theorem plain_guarded (outcome : Except Raised Unit) :
    Plain (handled (claimHandler lower run) outcome) := by
  cases outcome with
  | ok done => exact transparent_done _
  | error error => exact plain_claimHandler lower run error

theorem plain_cleanup (outcome : Except Raised Unit) :
    Plain (stopTasks.andThen (afterReturn (fun _ => .done outcome))) :=
  transparent_andThen plain_stopTasks rfl (transparent_afterReturn (fun _ => transparent_done _))

theorem untracked_processClaim (staleSeconds : Int) (expected : Str × Int) :
    (processClaim lower run staleSeconds expected).Untracked countClaim := by
  refine untracked_bind (plain_ask rfl).untracked (fun started => ?_)
  refine untracked_bind (plain_ask rfl).untracked (fun _ => ?_)
  refine untracked_andThen (untracked_andThen (plain_completeClaim run started).untracked ?_) ?_
  · exact fun outcome => (plain_guarded lower run outcome).untracked
  · exact fun outcome => (plain_cleanup outcome).untracked

/-- What `except asyncio.CancelledError` does: it raises again, or finds the lease lost. -/
theorem ensures_claimHandler (batch claims : Nat) :
    (claimHandler lower run .cancelled).Ensures (quiet batch) (Ends batch) claims := by
  have reads : claimHandler lower run .cancelled = (do
      let lost ← ask .leaseLost
      if lost then pure () else raise .cancelled) := rfl
  rw [reads]
  refine ⟨rfl, fun outcome possible => ?_⟩
  cases outcome with
  | error error => exact quiet_raise error
  | ok lost =>
    cases lost with
    | true => exact Or.inr possible
    | false => exact quiet_raise .cancelled

/-- A cancellation that arrives in `process_claim` is raised, or swallowed for a lost
lease. -/
theorem cancelled_processClaim (batch claims : Nat) (staleSeconds : Int) (expected : Str × Int) :
    Cancelled (fun claims rest => rest.Ensures (quiet batch) (Ends batch) claims)
      (processClaim lower run staleSeconds expected) claims := by
  have raised : ∀ {claims}, (raise .cancelled : WorkerCoroutine Unit).Ensures (quiet batch)
      (Ends batch) claims := quiet_raise .cancelled
  refine interrupted_bind (plain_ask rfl) raised (fun started => ?_)
  refine interrupted_bind (plain_ask rfl) raised (fun _ => ?_)
  have body := plain_completeClaim run started
  have guarded : Cancelled (fun claims rest => rest.Ensures (quiet batch) (Ends batch) claims)
      (tryExcept (completeClaim run started) (claimHandler lower run)) claims := by
    refine interrupted_andThen (body.interrupted (ensures_claimHandler lower run batch claims))
      (body.untracked.ensures_free (fun outcome => ?_))
    exact (plain_guarded lower run outcome).interrupted raised
  have untracked : (tryExcept (completeClaim run started)
      (claimHandler lower run)).Untracked countClaim :=
    untracked_andThen body.untracked (fun outcome => (plain_guarded lower run outcome).untracked)
  refine interrupted_andThen (guarded.mono (fun _ rest ensured => ?_))
    (untracked.ensures_free (fun outcome => (plain_cleanup outcome).interrupted raised))
  exact (ensures_andThen_iff _ _ _).mpr (ensured.mono (fun _ _ ends => ends_stopTasks ends))

end ProcessClaim

/-- A cancellation that arrives in the loop over runs ends it, as long as no lost lease
is found before the last iteration. -/
theorem cancelled_executeBatch (lower : Str → Str) (settings : Settings) (workerId : Str)
    {batch iterations claims : Nat} (left : claims + iterations = batch) (processed : Nat) :
    Cancelled (Quiet batch) (executeBatch lower settings workerId iterations processed) claims := by
  induction iterations generalizing claims processed with
  | zero => trivial
  | succ iterations ih =>
    unfold executeBatch
    refine ⟨fun _ => trivial, fun outcome => ?_⟩
    cases outcome with
    | error error => trivial
    | ok claimed =>
      cases claimed with
      | none => trivial
      | some run =>
        have untracked := untracked_processClaim lower run settings.workerStaleSeconds
          (settings.embeddingModel, settings.embeddingDim)
        have entered : Cancelled (Quiet batch)
            (processClaim lower run settings.workerStaleSeconds
              (settings.embeddingModel, settings.embeddingDim) >>=
              fun _ => executeBatch lower settings workerId iterations (processed + 1))
            (claims + 1) := by
          refine interrupted_andThen (((cancelled_processClaim lower run batch (claims + 1) _
            _).unchanged untracked).mono ?_) (untracked.ensures_free (fun outcome => ?_))
          · rintro _ rest ⟨rfl, ensured⟩
            refine (ensures_andThen_iff _ _ _).mpr ((ensured.unchanged (fun request wanted claims =>
              countClaim_of_quiet wanted claims)).mono ?_)
            rintro _ outcome ⟨rfl, ends⟩
            cases outcome with
            | error error => trivial
            | ok done =>
              -- The lease was found lost, so this was the last iteration.
              rcases ends with ⟨error, impossible⟩ | used
              · cases impossible
              · obtain rfl : iterations = 0 := by omega
                trivial
          · cases outcome with
            | error error => trivial
            | ok done => exact ih (by omega) _
        exact entered

/-- A cancelled poll cycle takes nothing new, as long as no lost lease is found before
the last claim of the batch. -/
theorem cancelled_pollCycle (lower : Str → Str) (settings : Settings) (workerId : Str)
    (lastRecovery : ℚ) :
    Cancelled (Quiet settings.workerBatchSize.toNat)
      (pollCycle lower settings workerId lastRecovery) 0 := by
  refine interrupted_bind (plain_ask rfl) trivial (fun now => ?_)
  refine interrupted_bind (plain_recoverIfDue settings now lastRecovery) trivial
    (fun recovery => ?_)
  refine interrupted_bind (plain_deliverBatch settings workerId _ 0) trivial (fun delivered => ?_)
  refine interrupted_andThen ((cancelled_executeBatch lower settings workerId (Nat.zero_add _)
    delivered).mono (fun claims rest quieted => ?_)) (ensures_free (fun claims outcome => ?_) _ _)
  · refine (ensures_andThen_iff _ _ _).mpr (Ensures.mono quieted (fun claims outcome _ => ?_))
    cases outcome <;> trivial
  · cases outcome <;> trivial

/-! ## Runs -/

section Tasks

variable {α : Type} {batch : Nat} {state state' : WorkerState α}

/-- A cancellation of the coroutine where it stands, or anywhere later, would leave it
quiet. -/
def Heeding (batch : Nat) (state : WorkerState α) : Prop :=
  match state.program with
  | .done _ => True
  | .call request rest =>
    (request.suspends = true → Quiet batch (claimsMade state.calls) (rest (.error .cancelled))) ∧
      ∀ outcome, Cancelled (Quiet batch) (rest outcome) (claimsMade state.calls)

/-- The coroutine is quiet from here on. -/
def Quieted (batch : Nat) (state : WorkerState α) : Prop :=
  match state.program with
  | .done _ => True
  | .call request rest =>
    if state.cancelling && request.suspends then
      Quiet batch (claimsMade state.calls) (rest (.error .cancelled))
    else ∀ outcome, (quiet batch).possible (claimsMade state.calls) request outcome →
      Quiet batch (claimsMade state.calls) (rest outcome)

/-- The calls of the second state are those of the first, and some that take nothing. -/
def TakesNothing (state state' : WorkerState α) : Prop :=
  ∃ made, state'.calls = state.calls ++ made ∧ ∀ call ∈ made, call.takes = false

theorem TakesNothing.same (same : state'.calls = state.calls) : TakesNothing state state' :=
  ⟨[], by rw [same, List.append_nil], fun _ impossible => absurd impossible List.not_mem_nil⟩

theorem TakesNothing.trans {first second third : WorkerState α} (early : TakesNothing first second)
    (late : TakesNothing second third) : TakesNothing first third := by
  obtain ⟨made, calls, takes⟩ := early
  obtain ⟨made', calls', takes'⟩ := late
  refine ⟨made ++ made', by rw [calls', calls, List.append_assoc], fun call member => ?_⟩
  exact (List.mem_append.mp member).elim (takes call) (takes' call)

theorem heeding_advanced {program : WorkerCoroutine α}
    (cancelled : Cancelled (Quiet batch) program (claimsMade state.calls)) :
    Heeding batch (state.advanced program) := by
  cases program with
  | done outcome => trivial
  | call request rest =>
    simp only [Heeding, WorkerState.advanced, claimsMade_concat]
    exact cancelled

/-- Before it is cancelled, a coroutine stays one that heeds a cancellation. -/
theorem Heeding.moved (heeding : Heeding batch state) (moved : state.Moved state') :
    Heeding batch state' := by
  cases moved with
  | interrupted stands cancelling suspends =>
    simp only [Heeding, stands] at heeding
    exact heeding_advanced (heeding.2 _)
  | ended stands uninterrupted answered =>
    simp only [Heeding, stands] at heeding
    exact heeding_advanced (heeding.2 _)
  | other suspended => exact heeding

/-- A cancellation of a suspended coroutine makes it quiet. -/
theorem Heeding.cancel (heeding : Heeding batch state) (suspended : state.suspended = true) :
    Quieted batch state.cancel := by
  unfold Heeding at heeding
  unfold WorkerState.suspended at suspended
  unfold WorkerState.cancel
  cases stands : state.program with
  | done outcome => simp only [Quieted, stands]
  | call request rest =>
    simp only [stands] at heeding suspended
    simp only [Quieted, suspended, Bool.and_self, ↓reduceIte]
    exact heeding.1 suspended

theorem possible_error (batch claims : Nat) (request : WorkerCall) (error : Raised) :
    (quiet batch).possible claims request (.error error) := by
  cases request <;> trivial

theorem quieted_advanced {program : WorkerCoroutine α}
    (quieted : Quiet batch (claimsMade state.calls) program) :
    Quieted batch (state.advanced program) ∧ TakesNothing state (state.advanced program) := by
  cases program with
  | done outcome => exact ⟨trivial, .same rfl⟩
  | call request rest =>
    obtain ⟨wanted, goesOn⟩ := quieted
    constructor
    · simp only [Quieted, WorkerState.advanced, claimsMade_concat]
      split
      · exact goesOn _ (possible_error _ _ _ _)
      · exact goesOn
    · refine ⟨[request], rfl, fun call member => ?_⟩
      obtain rfl := List.mem_singleton.mp member
      exact wanted

/-- Once it is quiet, a coroutine stays quiet and takes nothing, as long as no
cancellation is swallowed. -/
theorem Quieted.moved (quieted : Quieted batch state) (heeds : swallows batch state = false)
    (moved : state.Moved state') : Quieted batch state' ∧ TakesNothing state state' := by
  cases moved with
  | interrupted stands cancelling suspends =>
    simp only [Quieted, stands, cancelling, suspends, Bool.and_self, ↓reduceIte] at quieted
    exact quieted_advanced quieted
  | @ended request rest answers outcome stands uninterrupted answered =>
    simp only [Quieted, stands, uninterrupted, Bool.false_eq_true, ↓reduceIte] at quieted
    refine quieted_advanced (quieted outcome ?_)
    cases request with
    | leaseLost =>
      cases outcome with
      | error error => trivial
      | ok lost =>
        cases lost with
        | false => trivial
        | true =>
          -- The flag was read, and the condition leaves no iteration.
          simp only [WorkerState.outcome?, Option.map_eq_some_iff, Except.ok.injEq] at answered
          obtain ⟨tasks, there, lost⟩ := answered
          simp only [swallows, stands, there, Option.any_some, lost, Bool.true_and,
            decide_eq_false_iff_not, not_lt] at heeds
          exact heeds
    | _ => trivial
  | other suspended => exact ⟨quieted, .same rfl⟩

end Tasks

namespace PollState

variable {lower : Str → Str} {settings : Settings} {workerId : Str} {lastRecovery : ℚ}
  {state state' : PollState}

/-- The watcher does nothing to the cycle but cancel it, which it does once. -/
inductive Watched (state state' : PollState) : Prop
  | moved (moved : state.cycle.Moved state'.cycle) (watch : state'.watch = state.watch)
  | cancelled (watching : state.watch = .watching) (suspended : state.cycle.suspended = true)
      (cycle : state'.cycle = state.cycle.cancel) (watch : state'.watch = .stopping)
  | same (cycle : state'.cycle = state.cycle)
      (watch : state'.watch = .watching → state.watch = .watching)

theorem of_cancelCycle (cancelled : next .cancelCycle state = some state') :
    state.watch = .watching ∧ state.cycle.suspended = true ∧
      state'.cycle = state.cycle.cancel ∧ state'.watch = .stopping := by
  simp only [next] at cancelled
  split at cancelled
  · next watching =>
    split at cancelled
    · next both =>
      cases cancelled
      exact ⟨watching, (Bool.and_eq_true _ _ ▸ both).1, rfl, rfl⟩
    · cases cancelled
  · cases cancelled

theorem watched_of_next {act : PollAct} (taken : next act state = some state') :
    Watched state state' := by
  cases act with
  | cycle act =>
    obtain ⟨cycle, moved, rfl⟩ := Option.map_eq_some_iff.mp taken
    exact .moved (WorkerState.moved_of_next moved) rfl
  | stop =>
    simp only [next] at taken
    split at taken
    · cases taken
      exact .same rfl id
    · cases taken
  | cancelCycle =>
    obtain ⟨watching, suspended, cycle, watch⟩ := of_cancelCycle taken
    exact .cancelled watching suspended cycle watch
  | cycleDone =>
    simp only [next] at taken
    split at taken
    · cases taken
      exact .same rfl (fun impossible => nomatch impossible)
    · cases taken
      exact .same rfl (fun impossible => nomatch impossible)
    · cases taken

/-- Until the watcher cancels the cycle, the cycle heeds a cancellation. -/
theorem heeding_of_reachable
    (reached : Runs Step (initial lower settings workerId lastRecovery) state) :
    state.watch = .watching → Heeding settings.workerBatchSize.toNat state.cycle := by
  refine @Runs.keeps _ _ _ _ (fun state => state.watch = .watching →
    Heeding settings.workerBatchSize.toNat state.cycle) reached ?_ (fun _ => ?_)
  · rintro before after heeding ⟨act, taken⟩ watching
    cases watched_of_next taken with
    | moved moved watch => exact (heeding (watch ▸ watching)).moved moved
    | cancelled earlier suspended cycle watch =>
      rw [watch] at watching
      cases watching
    | same cycle watch => exact cycle ▸ heeding (watch watching)
  · have begun : Heeding settings.workerBatchSize.toNat
        (WorkerState.advanced ⟨pollCycle lower settings workerId lastRecovery, false, none, []⟩
          (pollCycle lower settings workerId lastRecovery)) :=
      heeding_advanced (cancelled_pollCycle lower settings workerId lastRecovery)
    exact begun

/-- Calls that were made are kept. -/
theorem calls_of_runs (run : Runs Step state state') :
    ∃ made, state'.cycle.calls = state.cycle.calls ++ made := by
  induction run with
  | refl => exact ⟨[], (List.append_nil _).symm⟩
  | @tail middle last earlier step ih =>
    obtain ⟨made, calls⟩ := ih
    obtain ⟨act, taken⟩ := step
    have one : ∃ made, last.cycle.calls = middle.cycle.calls ++ made := by
      cases watched_of_next taken with
      | moved moved watch => exact moved.calls
      | cancelled watching suspended cycle watch =>
        refine ⟨[], ?_⟩
        rw [cycle, List.append_nil]
        exact WorkerState.calls_cancel _
      | same cycle watch => exact ⟨[], by rw [cycle, List.append_nil]⟩
    obtain ⟨made', calls'⟩ := one
    exact ⟨made ++ made', by rw [calls', calls, List.append_assoc]⟩

/-- A step of which no cancellation is swallowed. -/
def Heeded (batch : Nat) (before after : PollState) : Prop :=
  Step before after ∧ swallows batch before.cycle = false

/-- A quiet cycle that the watcher has cancelled. -/
def Stopped (batch : Nat) (state : PollState) : Prop :=
  Quieted batch state.cycle ∧ state.watch ≠ .watching

/-- Such a step keeps a stopped cycle stopped, and takes nothing. -/
theorem Stopped.step {batch : Nat} (stopped : Stopped batch state)
    (heeded : Heeded batch state state') :
    Stopped batch state' ∧ TakesNothing state.cycle state'.cycle := by
  obtain ⟨quieted, unwatched⟩ := stopped
  obtain ⟨⟨act, taken⟩, heeds⟩ := heeded
  cases watched_of_next taken with
  | moved moved watch =>
    obtain ⟨quieted', nothing⟩ := quieted.moved heeds moved
    exact ⟨⟨quieted', watch ▸ unwatched⟩, nothing⟩
  | cancelled watching suspended cycle watch => exact absurd watching unwatched
  | same cycle watch =>
    exact ⟨⟨cycle ▸ quieted, fun watching => unwatched (watch watching)⟩, .same (by rw [cycle])⟩

/-- Once the watcher has cancelled the cycle because the stop event is set, the cycle
takes no new run and no new summary, as long as `process_claim` does not swallow the
cancellation with iterations left. -/
theorem stop_ends_polling {stopped later : PollState}
    (reached : Runs Step (initial lower settings workerId lastRecovery) state)
    (cancelled : next .cancelCycle state = some stopped)
    (heeded : Runs (Heeded settings.workerBatchSize.toNat) stopped later) :
    ∃ made, later.cycle.calls = stopped.cycle.calls ++ made ∧
      ∀ call ∈ made, call.takes = false := by
  obtain ⟨watching, suspended, cycle, watch⟩ := of_cancelCycle cancelled
  have quieted := (heeding_of_reachable reached watching).cancel suspended
  have began : Stopped settings.workerBatchSize.toNat stopped := by
    refine ⟨cycle ▸ quieted, fun watching => ?_⟩
    rw [watch] at watching
    cases watching
  have nothing : TakesNothing stopped.cycle later.cycle := by
    refine @Runs.relates _ _ _ _ _ (fun before after => TakesNothing before.cycle after.cycle)
      heeded ?_ began ?_ ?_ ?_
    · exact fun _ _ holds step => (holds.step step).1
    · exact fun _ => .same rfl
    · exact .trans
    · exact fun _ _ holds step => (holds.step step).2
  exact nothing

/-! ## Small runs -/

/-- Batches of two. -/
def smallSettings : Settings where
  databaseUrl := lit "postgresql://"
  rootModel := lit "root"
  subModel := lit "sub"
  embeddingModel := lit "embed"
  embeddingDim := 8
  apiKeys := []
  dbPoolSize := 10
  embeddedWorker := false
  workerPollSeconds := .finite 1
  workerStaleSeconds := 60
  workerBatchSize := 2
  workerMaxPollFailures := 5
  workerRecoveryBatchSize := 100

/-- No summary is waiting, and always one run. -/
def smallAnswers : (call : WorkerCall) → Except Raised call.Answer
  | .monotonic => .ok 0
  | .recoverStale _ _ => .ok (0, 0)
  | .claimSummary _ _ => .ok none
  | .writeMemory _ => .ok (lit "m")
  | .completeSummary _ | .retrySummary _ _ | .succeed _ _ => .ok true
  | .claim workerId => .ok (some (smallClaim workerId 1 2))
  | .start _ _ _ _ | .stop _ => .ok ()
  | .awaitExecution => .ok (⟨.str (lit "3"), .list [], .null⟩, [])
  | .fail _ _ _ _ => .ok (some .queued)
  | .leaseLost => .ok false

def resumed : PollAct := .cycle (.resume smallAnswers)

/-- The heartbeat loop goes on; the store no longer confirms the lease. -/
def unconfirmed : PollAct := .cycle (.heartbeat (.answered false) false)

/-- The cycle claims a run and waits for its execution; and then there is a signal. -/
def executingRun : List PollAct := List.replicate 5 resumed ++ [.stop]

/-- The cancelled execution ends, then the tasks are stopped one after the other. -/
def unwinding : List PollAct :=
  [.cycle (.execution (.error .cancelled)), resumed, resumed, unconfirmed, resumed, resumed]

/-- A step, if it swallows nothing. -/
def nextHeeded (act : PollAct) (state : PollState) : Option PollState :=
  if swallows smallSettings.workerBatchSize.toNat state.cycle then none else next act state

theorem heeded_of_nextHeeded {act : PollAct} (taken : nextHeeded act state = some state') :
    Heeded smallSettings.workerBatchSize.toNat state state' := by
  unfold nextHeeded at taken
  split at taken
  · cases taken
  · next heeds => exact ⟨⟨act, taken⟩, Bool.eq_false_iff.mpr heeds⟩

/-- The states before and after the cancellation, and later. -/
def stoppedRun (proceed : PollAct → PollState → Option PollState) (before : List PollAct) :
    Option (PollState × PollState × PollState) := do
  let state ← replay next before (initial id smallSettings (lit "w") 0)
  let stopped ← next .cancelCycle state
  let later ← replay proceed unwinding stopped
  pure (state, stopped, later)

/-- What the calls after the cancellation take. -/
def takenAfter (states : PollState × PollState × PollState) : List Bool :=
  (states.2.2.cycle.calls.drop states.2.1.cycle.calls.length).map WorkerCall.takes

theorem stoppedRun_spec {proceed : PollAct → PollState → Option PollState}
    {before : List PollAct} {state stopped later : PollState}
    (ran : stoppedRun proceed before = some (state, stopped, later)) :
    Runs Step (initial id smallSettings (lit "w") 0) state ∧
      next .cancelCycle state = some stopped ∧ replay proceed unwinding stopped = some later := by
  simp only [stoppedRun, Option.bind_eq_bind, Option.bind_eq_some_iff] at ran
  obtain ⟨state, reached, stopped, cancelled, later, proceeded, collected⟩ := ran
  cases collected
  exact ⟨runs_of_replay (fun act _ _ taken => ⟨act, taken⟩) reached, cancelled, proceeded⟩

/-- A cycle that waits for an execution stops both tasks and takes nothing. -/
theorem stop_ends_polling_small : ∃ (state stopped later : PollState) (made : List WorkerCall),
    Runs Step (initial id smallSettings (lit "w") 0) state ∧
      next .cancelCycle state = some stopped ∧ Runs (Heeded 2) stopped later ∧
      later.cycle.calls = stopped.cycle.calls ++ made ∧ made.length = 3 ∧
      ∀ call ∈ made, call.takes = false := by
  have ran : (stoppedRun nextHeeded executingRun).map takenAfter = some [false, false, false] := by
    decide +kernel
  obtain ⟨⟨state, stopped, later⟩, computed, shown⟩ := Option.map_eq_some_iff.mp ran
  obtain ⟨reached, cancelled, proceeded⟩ := stoppedRun_spec computed
  have heeded : Runs (Heeded smallSettings.workerBatchSize.toNat) stopped later :=
    @runs_of_replay _ _ (Heeded _) nextHeeded (fun _ _ _ => heeded_of_nextHeeded) _ _ _ proceeded
  obtain ⟨made, calls, nothing⟩ := stop_ends_polling reached cancelled heeded
  refine ⟨state, stopped, later, made, reached, cancelled, heeded, calls, ?_, nothing⟩
  simpa [takenAfter, calls] using congrArg List.length shown

/-- The heartbeat loop finds the lease lost, and reports that while the watcher cancels
the cycle. `process_claim` returns, and the cycle claims the next run. -/
theorem stop_swallowed : ∃ (state stopped later : PollState) (made : List WorkerCall),
    Runs Step (initial id smallSettings (lit "w") 0) state ∧
      next .cancelCycle state = some stopped ∧ Runs Step stopped later ∧
      later.cycle.calls = stopped.cycle.calls ++ made ∧ ∃ call ∈ made, call.takes = true := by
  have ran : (stoppedRun next (executingRun ++ [unconfirmed, unconfirmed])).map takenAfter =
      some [false, false, false, true] := by
    decide +kernel
  obtain ⟨⟨state, stopped, later⟩, computed, shown⟩ := Option.map_eq_some_iff.mp ran
  obtain ⟨reached, cancelled, proceeded⟩ := stoppedRun_spec computed
  have continued : Runs Step stopped later :=
    runs_of_replay (fun act _ _ taken => ⟨act, taken⟩) proceeded
  obtain ⟨made, calls⟩ := calls_of_runs continued
  refine ⟨state, stopped, later, made, reached, cancelled, continued, calls, ?_⟩
  have taken : made.map WorkerCall.takes = [false, false, false, true] := by
    simpa [takenAfter, calls] using shown
  have member : true ∈ made.map WorkerCall.takes := by simp [taken]
  exact List.mem_map.mp member

end PollState

end RlmApi
