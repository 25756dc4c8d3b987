import RlmApi.ClaimOutcomes
import RlmApi.ClaimProcessing

/-!
# Settlement of claims

`process_claim` with its two tasks, the database its calls reach, and everybody else who
calls the database. It may be cancelled from outside, in which case the task it awaits
is cancelled with it, and the execution may end with any exception, also after it was
cancelled.

A transaction of `succeed` or `fail` is executed at most once while its call is under
way, and the call may raise all the same. Nothing is executed for a call that is over: a
transaction whose commit stays unanswered has locked the row since its `UPDATE`, so it
comes before whatever is called next.
-/

namespace RlmApi

open Coroutine Worker RunStore

/-! ## The database below the calls -/

namespace WorkerCall

/-- The transaction that a call asks for, if PostgreSQL accepts its arguments. -/
def operation? : WorkerCall → Option Operation
  | .succeed run report =>
    if storable : (storableFields report.result && storableFields report.usage &&
        storableItems (report.recalledMemoryIds.map .str) && report.trajectory.storable &&
        storableText report.summaryContent && storableFields report.summaryMetadata) = true then
      some (.succeed run { report with storable := storable })
    else none
  | .fail run publicError eventMetadata retryable =>
    if storable : (storableText publicError && storableFields eventMetadata) = true then
      some (.fail run ⟨publicError, eventMetadata, retryable, storable⟩)
    else none
  | _ => none

/-- A call that returns returns what the database answered, and one that raises raises
an `Exception`. -/
def agrees (answer : Option RlmApi.Answer) :
    (call : WorkerCall) → Except Raised call.Answer → Bool
  | .succeed _ _, .ok owned =>
    match answer with
    | some (.succeeded stored) => owned == stored
    | _ => false
  | .fail _ _ _ _, .ok status =>
    match answer with
    | some (.failed stored) => status = stored
    | _ => false
  | _, .ok _ => true
  | _, .error error => error.isInstance .exception

end WorkerCall

/-- The transaction changed the row. -/
def Answer.takesEffect : Answer → Bool
  | .succeeded owned => owned
  | .failed status => status.isSome
  | _ => false

/-- A cancelled execution that ends with something else than `CancelledError`. -/
def ClaimTasks.endLate (tasks : ClaimTasks)
    (outcome : Except Raised (ExecutedPrediction × List Memory)) : Option ClaimTasks :=
  match tasks.execution, outcome with
  | .running true, .ok value => some { tasks with execution := .ended (.ok value) }
  | .running true, .error error =>
    if error.isInstance .exception && !error.isInstance .cancelledError then
      some { tasks with execution := .ended (.error error) }
    else none
  | _, _ => none

/-! ## The system -/

/-- `process_claim` in execution, the database and its answer to the call under way, and
the record: whether there was a cancellation from outside, which calls have returned or
raised, and which transactions have changed the row. -/
structure ClaimState where
  worker : WorkerState Unit
  db : Database
  answer : Option Answer
  cancelled : Bool
  ended : List (WorkerCall × Bool)
  effects : List Operation

/-- What happens next. -/
inductive ClaimAct where
  /-- `process_claim` is resumed. -/
  | resume (answers : (call : WorkerCall) → Except Raised call.Answer)
  /-- `process_claim` is resumed with what the execution ended with, although it was
  cancelled while it awaited it. -/
  | receive
  | execution (outcome : Except Raised (ExecutedPrediction × List Memory))
  | lateExecution (outcome : Except Raised (ExecutedPrediction × List Memory))
  | heartbeat (beat : Heartbeat) (recent : Bool)
  /-- A cancellation from outside. -/
  | cancel
  /-- The database executes the call under way. -/
  | execute (now : Timestamp) (locked : Str → Bool)
  /-- The database executes a call of the heartbeat loop, or of anybody else. -/
  | other (now : Timestamp) (locked : Str → Bool) (operation : Operation)

namespace ClaimState

/-- `process_claim` before its first call. -/
def initial (lower : Str → Str) (run : ClaimedRun) (staleSeconds : Int) (expected : Str × Int)
    (db : Database) : ClaimState :=
  ⟨.initial (processClaim lower run staleSeconds expected), db, none, false, [], []⟩

/-- `process_claim` goes on after a call. -/
def proceed (state : ClaimState) (program : WorkerCoroutine Unit) : ClaimState :=
  { state with
    worker := { state.worker with cancelling := false }.advanced program
    answer := none }

/-- A call ends in its own way. -/
def note (state : ClaimState) (request : WorkerCall) (returned : Bool) : ClaimState :=
  { state with ended := state.ended ++ [(request, returned)] }

/-- The step function. -/
def next (act : ClaimAct) (state : ClaimState) : Option ClaimState :=
  match act with
  | .resume answers =>
    match state.worker.program with
    | .done _ => none
    | .call request rest =>
      if state.worker.cancelling && request.suspends then
        if state.worker.ready request then some (state.proceed (rest (.error .cancelled)))
        else none
      else if request.agrees state.answer (answers request) then
        (state.worker.outcome? answers request).map (fun outcome =>
          (state.note request outcome.isOk).proceed (rest outcome))
      else none
  | .receive =>
    match state.worker.program, state.worker.tasks with
    | .call .awaitExecution rest, some ⟨.ended outcome, _, _⟩ =>
      some ((state.note .awaitExecution outcome.isOk).proceed (rest outcome))
    | _, _ => none
  | .execution outcome =>
    match outcome with
    | .error error =>
      if error.isInstance .exception || error.isInstance .cancelledError then
        (state.worker.next (.execution outcome)).map (fun worker => { state with worker := worker })
      else none
    | .ok _ =>
      (state.worker.next (.execution outcome)).map (fun worker => { state with worker := worker })
  | .lateExecution outcome =>
    if state.worker.suspended then
      (state.worker.tasks.bind (fun tasks => tasks.endLate outcome)).map (fun tasks =>
        { state with worker := { state.worker with tasks := some tasks } })
    else none
  | .heartbeat beat recent =>
    (state.worker.next (.heartbeat beat recent)).map (fun worker => { state with worker := worker })
  | .cancel =>
    if state.worker.suspended then
      some { state with worker := state.worker.cancel, cancelled := true }
    else none
  | .execute now locked =>
    match state.worker.program, state.answer with
    | .call request _, none =>
      match request.operation? with
      | none => none
      | some operation =>
        match perform now locked operation state.db with
        | .error _ => none
        | .ok (answer, db) =>
          some { state with
            db := db
            answer := some answer
            effects := if answer.takesEffect then state.effects ++ [operation] else state.effects }
    | _, _ => none
  | .other now locked operation =>
    match perform now locked operation state.db with
    | .error _ => none
    | .ok (_, db) => some { state with db := db }

/-- One step, of anybody. -/
def Step (state state' : ClaimState) : Prop := ∃ act, next act state = some state'

end ClaimState

/-! ## The tasks -/

namespace ClaimTasks

/-- A cancellation of the execution has a cause, and so has its `CancelledError`. The
heartbeat loop has noted the lost lease by the time it reports it. -/
structure Justified (cancelled : Bool) (tasks : ClaimTasks) : Prop where
  cancelling : tasks.execution = .running true → cancelled = true ∨ tasks.leaseLost = true
  raised : ∀ error, tasks.execution = .ended (.error error) →
    (error.isInstance .cancelledError = true → cancelled = true ∨ tasks.leaseLost = true) ∧
    (error.isInstance .cancelledError = false → error.isInstance .exception = true)
  reporting : ∀ cancelling, tasks.heartbeat = .running .reporting cancelling →
    tasks.leaseLost = true

/-- A step of a task: it takes nothing back that `process_claim` can observe. -/
structure Progress (cancelled : Bool) (tasks tasks' : ClaimTasks) : Prop where
  justified : tasks'.Justified cancelled
  isDone : ∀ task, tasks.isDone task = true → tasks'.isDone task = true
  leaseLost : tasks.leaseLost = true → tasks'.leaseLost = true

variable {cancelled : Bool} {tasks tasks' : ClaimTasks}

theorem justified_started : started.Justified cancelled := by
  refine ⟨fun same => ?_, fun error same => ?_, fun cancelling same => ?_⟩ <;> cases same

@[simp] theorem isDone_cancel (tasks : ClaimTasks) (cancelled task : ClaimTask) :
    (tasks.cancel cancelled).isDone task = tasks.isDone task := by
  obtain ⟨execution, heartbeat, leaseLost⟩ := tasks
  cases cancelled with
  | execution => cases execution <;> cases task <;> rfl
  | heartbeat => cases heartbeat <;> cases task <;> rfl

@[simp] theorem leaseLost_cancel (tasks : ClaimTasks) (task : ClaimTask) :
    (tasks.cancel task).leaseLost = tasks.leaseLost := by
  obtain ⟨execution, heartbeat, leaseLost⟩ := tasks
  cases task with
  | execution => cases execution <;> rfl
  | heartbeat => cases heartbeat <;> rfl

/-- A task is cancelled for a reason, or it does not matter any more. -/
theorem Justified.cancel (justified : tasks.Justified cancelled) (task : ClaimTask)
    (reason : task = .execution →
      cancelled = true ∨ tasks.leaseLost = true ∨ tasks.isDone .execution = true) :
    (tasks.cancel task).Justified cancelled := by
  obtain ⟨execution, heartbeat, leaseLost⟩ := tasks
  cases task with
  | execution =>
    cases execution with
    | running cancelling =>
      refine ⟨fun _ => ?_, fun error same => ?_, justified.reporting⟩
      · rcases reason rfl with outside | lost | impossible
        · exact Or.inl outside
        · exact Or.inr lost
        · cases impossible
      · cases same
    | ended outcome => exact justified
  | heartbeat =>
    cases heartbeat with
    | running point cancelling =>
      refine ⟨justified.cancelling, justified.raised, fun cancelled same => ?_⟩
      cases same
      exact justified.reporting cancelling rfl
    | ended => exact justified

/-- A cancellation from outside is cause enough. -/
theorem Justified.outside (justified : tasks.Justified cancelled) : tasks.Justified true :=
  ⟨fun _ => Or.inl rfl, fun error same => ⟨fun _ => Or.inl rfl, (justified.raised error same).2⟩,
    justified.reporting⟩

/-- The execution ends with an outcome that has a cause. -/
theorem Justified.finish (justified : tasks.Justified cancelled)
    {outcome : Except Raised (ExecutedPrediction × List Memory)}
    (caused : ∀ error, outcome = .error error →
      (error.isInstance .cancelledError = true → cancelled = true ∨ tasks.leaseLost = true) ∧
      (error.isInstance .cancelledError = false → error.isInstance .exception = true)) :
    tasks.Progress cancelled { tasks with execution := .ended outcome } := by
  refine ⟨⟨fun same => ?_, fun error same => ?_, justified.reporting⟩, fun task done => ?_, id⟩
  · cases same
  · cases same
    exact caused error rfl
  · cases task with
    | execution => rfl
    | heartbeat => exact done

theorem Justified.endExecution (justified : tasks.Justified cancelled)
    {outcome : Except Raised (ExecutedPrediction × List Memory)}
    (excepted : ∀ error, outcome = .error error → error.isInstance .cancelledError = false →
      error.isInstance .exception = true)
    (taken : tasks.endExecution outcome = some tasks') : tasks.Progress cancelled tasks' := by
  unfold ClaimTasks.endExecution at taken
  split at taken
  · next cancelling =>
    cases taken
    refine justified.finish (fun error same => ?_)
    cases same
    exact ⟨fun _ => justified.cancelling cancelling, fun other => by cases other⟩
  · split at taken
    · next error =>
      split at taken
      · cases taken
      · next other =>
        cases taken
        refine justified.finish (fun raised same => ?_)
        cases same
        exact ⟨fun impossible => absurd impossible other, excepted error rfl⟩
    · cases taken
      exact justified.finish (fun raised same => by cases same)
  · cases taken

theorem Justified.endLate (justified : tasks.Justified cancelled)
    {outcome : Except Raised (ExecutedPrediction × List Memory)}
    (taken : tasks.endLate outcome = some tasks') : tasks.Progress cancelled tasks' := by
  unfold ClaimTasks.endLate at taken
  split at taken
  · cases taken
    exact justified.finish (fun raised same => by cases same)
  · next error =>
    split at taken
    · next both =>
      cases taken
      simp only [Bool.and_eq_true, Bool.not_eq_true'] at both
      refine justified.finish (fun raised same => ?_)
      cases same
      exact ⟨fun impossible => by simp [both.2] at impossible, fun _ => both.1⟩
    · cases taken
  · cases taken

/-- Another point of the heartbeat loop. -/
theorem Justified.moveHeartbeat (justified : tasks.Justified cancelled) {heartbeat : HeartbeatState}
    (running : tasks.heartbeat ≠ .ended)
    (reporting : ∀ cancelling, heartbeat ≠ .running .reporting cancelling) :
    tasks.Progress cancelled { tasks with heartbeat := heartbeat } := by
  refine ⟨⟨justified.cancelling, justified.raised, fun cancelling same => ?_⟩, fun task done => ?_,
    id⟩
  · exact absurd same (reporting cancelling)
  · cases task with
    | execution => exact done
    | heartbeat => exact absurd (of_decide_eq_true done) running

theorem Justified.beat (justified : tasks.Justified cancelled) {answer : Heartbeat} {recent : Bool}
    (taken : tasks.beat answer recent = some tasks') : tasks.Progress cancelled tasks' := by
  unfold ClaimTasks.beat at taken
  split at taken
  · cases taken
  · next running =>
    cases taken
    exact justified.moveHeartbeat (by simp [running]) (by simp)
  · next running =>
    cases taken
    exact justified.moveHeartbeat (by simp [running]) (by simp)
  · next running =>
    split at taken
    · cases taken
      exact justified.moveHeartbeat (by simp [running]) (by simp)
    · cases taken
      -- The loop notes the lost lease before it reports it.
      refine ⟨⟨fun _ => Or.inr rfl, fun error same => ?_, fun _ _ => rfl⟩, fun task done => ?_,
        fun _ => rfl⟩
      · exact ⟨fun _ => Or.inr rfl, (justified.raised error same).2⟩
      · cases task with
        | execution => exact done
        | heartbeat => simp [isDone, running] at done
  · next running =>
    cases taken
    have lost := justified.reporting false running
    have kept := justified.cancel .execution (fun _ => Or.inr (Or.inl lost))
    refine ⟨⟨kept.cancelling, kept.raised, fun _ same => by cases same⟩, fun task done => ?_,
      fun _ => ?_⟩
    · cases task with
      | execution => exact (isDone_cancel tasks .execution .execution).trans done
      | heartbeat => rfl
    · exact (leaseLost_cancel tasks .execution).trans lost

end ClaimTasks

namespace WorkerState

variable {α : Type}

/-- What a cancellation of tasks keeps, a cancellation of the coroutine keeps. -/
theorem any_cancel {observe : ClaimTasks → Bool}
    (kept : ∀ (tasks : ClaimTasks) (task : ClaimTask), observe (tasks.cancel task) = observe tasks)
    (state : WorkerState α) : state.cancel.tasks.any observe = state.tasks.any observe := by
  unfold cancel
  split
  · rfl
  · next request rest stands =>
    cases request.awaited with
    | none => rfl
    | some task => simp [Option.any_map, kept]

/-- The tasks after a cancellation are those before, or one of them is cancelled. -/
theorem tasks_cancel (state : WorkerState α) :
    state.cancel.tasks = state.tasks ∨
      ∃ task, state.cancel.tasks = state.tasks.map (fun tasks => tasks.cancel task) := by
  unfold cancel
  split
  · exact Or.inl rfl
  · next request rest stands =>
    cases request.awaited with
    | none => exact Or.inl rfl
    | some task => exact Or.inr ⟨task, rfl⟩

end WorkerState

/-! ## The invariant -/

namespace ClaimState

variable {run : ClaimedRun} {state state' : ClaimState}

/-- What `process_claim` can observe. -/
def record (state : ClaimState) : ClaimRecord where
  calls := state.worker.calls
  ended := state.ended
  executionDone := state.worker.tasks.any (fun tasks => tasks.isDone .execution)
  heartbeatDone := state.worker.tasks.any (fun tasks => tasks.isDone .heartbeat)
  leaseLost := state.worker.tasks.any (fun tasks => tasks.leaseLost)
  cancelled := state.cancelled

theorem record_isDone (state : ClaimState) (task : ClaimTask) :
    state.record.isDone task = state.worker.tasks.any (fun tasks => tasks.isDone task) := by
  cases task <;> rfl

/-- The run of the claim has succeeded. -/
def Succeeded (run : ClaimedRun) (db : Database) : Prop :=
  ∃ row, db.run? run.id = some row ∧ row.status = .succeeded

/-- The transactions that changed the row are at most one, which was a success if the run
has not been failed yet. -/
structure Fenced (run : ClaimedRun) (state : ClaimState) : Prop where
  linked : state.db.Linked
  once : state.effects.length ≤ 1
  unsettled : state.record.Unsettled run → state.effects = []
  unfailed : state.record.Unfailed run → state.effects ≠ [] → Succeeded run state.db

/-- The call under way is about the run, and its transaction cannot be a second one to
change the row. -/
structure Underway (run : ClaimedRun) (state : ClaimState) : Prop where
  succeeding : ∀ other report rest, state.worker.program = .call (.succeed other report) rest →
    other = run ∧ .succeed other report ∈ state.worker.calls ∧
      (state.answer = none → state.effects = [])
  failing : ∀ other publicError eventMetadata retryable rest,
    state.worker.program = .call (.fail other publicError eventMetadata retryable) rest →
    other = run ∧ .fail other publicError eventMetadata retryable ∈ state.worker.calls ∧
      (state.answer = none → state.effects ≠ [] → Succeeded run state.db)

structure Sound (run : ClaimedRun) (state : ClaimState) : Prop where
  stands : state.worker.program.Stands (claimSpec run) (ClaimRecord.Finished run) state.record
  tasks : ∀ tasks, state.worker.tasks = some tasks → tasks.Justified state.cancelled
  interrupt : state.worker.cancelling = true → state.cancelled = true
  fenced : state.Fenced run
  underway : state.Underway run

/-- Making a call is what the specification says. -/
theorem record_proceed (state : ClaimState) {call : WorkerCall}
    (rest : Except Raised call.Answer → WorkerCoroutine Unit) :
    (state.proceed (.call call rest)).record = state.record.begin call := by
  obtain ⟨⟨program, cancelling, tasks, calls⟩, db, answer, cancelled, ended, effects⟩ := state
  cases call with
  | stop task =>
    cases tasks with
    | none => rfl
    | some tasks =>
      simp [proceed, record, ClaimRecord.begin, WorkerState.advanced, WorkerCall.begin]
  | _ => rfl

/-- `process_claim` goes on to its end, or to its next call. -/
theorem Sound.proceed {program : WorkerCoroutine Unit}
    (met : program.Meets (claimSpec run) (ClaimRecord.Finished run) state.record)
    (tasks : ∀ tasks, state.worker.tasks = some tasks → tasks.Justified state.cancelled)
    (fenced : state.Fenced run) : (state.proceed program).Sound run := by
  cases program with
  | done outcome =>
    refine ⟨met, tasks, (fun impossible => by cases impossible),
      ⟨fenced.linked, fenced.once, fenced.unsettled, fenced.unfailed⟩, ⟨?_, ?_⟩⟩
    · intro other report rest stands
      cases stands
    · intro other publicError eventMetadata retryable rest stands
      cases stands
  | call request rest =>
    obtain ⟨required, ends⟩ := met
    have same := record_proceed state rest
    have kept : ∀ call ∈ state.record.calls,
        call ∈ (state.proceed (.call request rest)).record.calls := by
      intro call member
      rw [same, ClaimRecord.begin_calls]
      exact List.mem_append_left _ member
    refine ⟨?_, fun begun started => ?_, (fun impossible => by cases impossible),
      ⟨fenced.linked, fenced.once, ?_, ?_⟩, ⟨?_, ?_⟩⟩
    · exact same ▸ ends
    · -- The tasks are those that were started before, except where the call starts them anew.
      change request.begin state.worker.tasks = some begun at started
      cases request with
      | start => exact Option.some.inj started ▸ ClaimTasks.justified_started
      | stop task =>
        obtain ⟨earlier, running, rfl⟩ := Option.map_eq_some_iff.mp started
        refine (tasks earlier running).cancel task (fun execution => Or.inr (Or.inr ?_))
        subst execution
        have done : state.record.isDone .execution = true := required
        simpa [record_isDone, running] using done
      | _ => exact tasks begun started
    · exact fun unsettled => fenced.unsettled (fun call member => unsettled call (kept call member))
    · exact fun unfailed => fenced.unfailed (fun call member => unfailed call (kept call member))
    · intro other report rest stands
      cases stands
      obtain ⟨rfl, unsettled⟩ := required
      exact ⟨rfl, List.mem_append_right _ (List.mem_singleton_self _), fun _ =>
        fenced.unsettled unsettled⟩
    · intro other publicError eventMetadata retryable rest stands
      cases stands
      obtain ⟨rfl, unfailed⟩ := required
      exact ⟨rfl, List.mem_append_right _ (List.mem_singleton_self _), fun _ =>
        fenced.unfailed unfailed⟩

/-- The invariant looks at nothing but the record, the database and the call under way. -/
theorem Fenced.later (fenced : state.Fenced run) (db : state'.db = state.db)
    (effects : state'.effects = state.effects) (calls : state'.record.calls = state.record.calls) :
    state'.Fenced run := by
  refine ⟨?_, ?_, ?_, ?_⟩
  · rw [db]
    exact fenced.linked
  · rw [effects]
    exact fenced.once
  · rw [effects, ClaimRecord.Unsettled, calls]
    exact fenced.unsettled
  · rw [effects, db, ClaimRecord.Unfailed, calls]
    exact fenced.unfailed

theorem Underway.later (underway : state.Underway run)
    (program : state'.worker.program = state.worker.program)
    (calls : state'.worker.calls = state.worker.calls) (answer : state'.answer = state.answer)
    (effects : state'.effects = state.effects) (db : state'.db = state.db) :
    state'.Underway run := by
  refine ⟨?_, ?_⟩
  · rw [program, calls, answer, effects]
    exact underway.succeeding
  · rw [program, calls, answer, effects, db]
    exact underway.failing

/-- A step of a task while `process_claim` waits. -/
theorem Sound.progress (sound : state.Sound run) {tasks tasks' : ClaimTasks}
    (started : state.worker.tasks = some tasks)
    (progress : tasks.Progress state.cancelled tasks') :
    Sound run { state with worker := { state.worker with tasks := some tasks' } } := by
  have grown : state.record.Grown
      (record { state with worker := { state.worker with tasks := some tasks' } }) := by
    refine ⟨rfl, fun _ member => member, fun task done => ?_, fun lost => ?_, id⟩
    · rw [record_isDone, started] at done
      rw [record_isDone]
      exact progress.isDone task done
    · simp only [record, started, Option.any_some] at lost ⊢
      exact progress.leaseLost lost
  refine ⟨sound.stands.later (fun request outcome after ends => ?_) (fun outcome finished => ?_),
    fun other same => ?_, sound.interrupt, sound.fenced.later rfl rfl rfl,
    sound.underway.later rfl rfl rfl rfl rfl⟩
  · exact ends.earlier grown
  · exact finished.grown grown
  · cases same
    exact progress.justified

/-- A cancellation from outside. -/
theorem Sound.cancel (sound : state.Sound run) :
    Sound run { state with worker := state.worker.cancel, cancelled := true } := by
  have grown : state.record.Grown
      (record { state with worker := state.worker.cancel, cancelled := true }) := by
    refine ⟨?_, fun _ member => member, fun task done => ?_, fun lost => ?_, fun _ => rfl⟩
    · exact WorkerState.calls_cancel state.worker
    · rw [record_isDone] at done ⊢
      exact (WorkerState.any_cancel (fun _ cancelled => ClaimTasks.isDone_cancel _ cancelled task)
        state.worker).trans done
    · exact (WorkerState.any_cancel (fun _ cancelled => ClaimTasks.leaseLost_cancel _ cancelled)
        state.worker).trans lost
  have program : state.worker.cancel.program = state.worker.program :=
    WorkerState.program_cancel state.worker
  have calls : state.worker.cancel.calls = state.worker.calls :=
    WorkerState.calls_cancel state.worker
  refine ⟨?_, ?_, fun _ => rfl, sound.fenced.later rfl rfl calls,
    sound.underway.later program calls rfl rfl rfl⟩
  · show state.worker.cancel.program.Stands _ _ _
    rw [program]
    exact sound.stands.later (fun request outcome after ends => ends.earlier grown)
      (fun outcome finished => finished.grown grown)
  · intro tasks started
    rcases WorkerState.tasks_cancel state.worker with same | ⟨task, same⟩
    · exact (sound.tasks tasks (same ▸ started)).outside
    · obtain ⟨earlier, running, rfl⟩ := Option.map_eq_some_iff.mp (same.symm.trans started)
      exact (sound.tasks earlier running).outside.cancel task (fun _ => Or.inl rfl)

/-- A run that has succeeded stays succeeded. -/
theorem Succeeded.performed {now : Timestamp} {operation : Operation} {answer : Answer}
    {db db' : Database} (succeeded : Succeeded run db)
    (effect : Performed now operation answer db db') : Succeeded run db' := by
  obtain ⟨row, found, finished⟩ := succeeded
  rcases effect.kept_or_changed found with kept | ⟨action, before, after, -, change, rfl, stored⟩
  · exact ⟨row, kept, finished⟩
  · obtain ⟨same, -⟩ := change.ended (Or.inl finished)
    exact ⟨after.row, stored, same ▸ finished⟩

/-- A failure that changes the row did not find a succeeded run. -/
theorem not_succeeded_of_failed {now : Timestamp} {arguments : FailArguments} {next : RunStatus}
    {db db' : Database}
    (effect : Performed now (.fail run arguments) (.failed (some next)) db db') :
    ¬ Succeeded run db := by
  rintro ⟨row, found, finished⟩
  obtain ⟨before, stored, rfl⟩ := run?_eq_some_iff.mp found
  obtain ⟨action, acts, acted⟩ := effect.acted run.id
  rw [stored] at acted
  simp only [Operation.Acts, ↓reduceIte] at acts
  subst acts
  obtain ⟨after, written, change⟩ := acted
  cases change with
  | fail status delayed leased => cases finished.symm.trans ((leasedBy_iff _ _).mp leased).1

/-- The database executes the transaction of the call under way. -/
theorem Sound.execute (sound : state.Sound run) {request : WorkerCall}
    {rest : Except Raised request.Answer → WorkerCoroutine Unit} {operation : Operation}
    {now : Timestamp} {locked : Str → Bool} {answer : Answer} {db : Database}
    (stands : state.worker.program = .call request rest) (unanswered : state.answer = none)
    (asked : request.operation? = some operation)
    (performed : perform now locked operation state.db = .ok (answer, db)) :
    Sound run { state with
      db := db
      answer := some answer
      effects := if answer.takesEffect then state.effects ++ [operation] else state.effects } := by
  have effect := perform_effect sound.fenced.linked performed
  refine ⟨sound.stands, sound.tasks, sound.interrupt, ?_, ⟨?_, ?_⟩⟩
  · cases request with
    | succeed other report =>
      obtain ⟨rfl, member, first⟩ := sound.underway.succeeding other report rest stands
      have none_ := first unanswered
      simp only [WorkerCall.operation?, Option.dite_none_right_eq_some, Option.some.injEq] at asked
      obtain ⟨storable, rfl⟩ := asked
      obtain ⟨action, acts, -⟩ := effect.acted other.id
      cases answer with
      | succeeded owned =>
        refine ⟨effect.linked, ?_, fun unsettled => ?_, fun unfailed changed => ?_⟩
        · cases owned <;> simp [Answer.takesEffect, none_]
        · exact absurd rfl (unsettled _ member)
        · cases owned with
          | false => exact absurd none_ changed
          | true =>
            obtain ⟨embedding, row, -, -, -, written, -⟩ := effect.success
            exact ⟨_, written, rfl⟩
      | enqueued | claimed | beaten | failed | recovered | reported => exact False.elim acts
    | fail other publicError eventMetadata retryable =>
      obtain ⟨rfl, member, first⟩ :=
        sound.underway.failing other publicError eventMetadata retryable rest stands
      simp only [WorkerCall.operation?, Option.dite_none_right_eq_some, Option.some.injEq] at asked
      obtain ⟨storable, rfl⟩ := asked
      obtain ⟨action, acts, -⟩ := effect.acted other.id
      have failed : ¬ ClaimRecord.Unfailed other state.record := fun unfailed =>
        unfailed _ member rfl
      refine ⟨effect.linked, ?_, fun unsettled => ?_, fun unfailed => absurd unfailed failed⟩
      · cases answer with
        | failed status =>
          cases status with
          | none => exact sound.fenced.once
          | some next =>
            -- Nothing has changed the row before, for a success would be final.
            have none_ : state.effects = [] := by
              by_contra some_
              exact not_succeeded_of_failed effect (first unanswered some_)
            simp [Answer.takesEffect, none_]
        | enqueued | claimed | beaten | succeeded | recovered | reported => exact False.elim acts
      · exact absurd rfl (unsettled _ member)
    | _ => cases asked
  · intro other report rest stands
    obtain ⟨same, member, -⟩ := sound.underway.succeeding other report rest stands
    exact ⟨same, member, fun impossible => by cases impossible⟩
  · intro other publicError eventMetadata retryable rest stands
    obtain ⟨same, member, -⟩ :=
      sound.underway.failing other publicError eventMetadata retryable rest stands
    exact ⟨same, member, fun impossible => by cases impossible⟩

/-- The database executes a transaction of somebody else. -/
theorem Sound.other (sound : state.Sound run) {operation : Operation} {now : Timestamp}
    {locked : Str → Bool} {answer : Answer} {db : Database}
    (performed : perform now locked operation state.db = .ok (answer, db)) :
    Sound run { state with db := db } := by
  have effect := perform_effect sound.fenced.linked performed
  have fenced := sound.fenced
  have underway := sound.underway
  refine ⟨sound.stands, sound.tasks, sound.interrupt, ⟨effect.linked, fenced.once,
    fenced.unsettled, fun unfailed some => (fenced.unfailed unfailed some).performed effect⟩,
    ⟨underway.succeeding, ?_⟩⟩
  intro other publicError eventMetadata retryable rest stands
  obtain ⟨same, member, first⟩ := underway.failing other publicError eventMetadata retryable rest
    stands
  exact ⟨same, member, fun unanswered some => (first unanswered some).performed effect⟩

/-- What an execution that has ended ended with is admitted. -/
theorem Sound.admitted_execution (sound : state.Sound run)
    {outcome : Except Raised (ExecutedPrediction × List Memory)} {heartbeat : HeartbeatState}
    {leaseLost : Bool} (ended : state.worker.tasks = some ⟨.ended outcome, heartbeat, leaseLost⟩) :
    state.record.Admitted .awaitExecution outcome ∧
      ∀ task, WorkerCall.awaitExecution.awaited = some task → state.record.isDone task = true := by
  constructor
  · cases outcome with
    | ok value => trivial
    | error error =>
      obtain ⟨cancelled, exception⟩ := (sound.tasks _ ended).raised error rfl
      refine ⟨fun same => (cancelled same).imp_right (fun lost => ?_), exception⟩
      simpa [record, ended] using lost
  · intro task awaits
    cases awaits
    simp [record_isDone, ended, ClaimTasks.isDone]

/-- A call that ends in its own way ends in a way that is admitted. -/
theorem Sound.admitted (sound : state.Sound run)
    {answers : (call : WorkerCall) → Except Raised call.Answer} {request : WorkerCall}
    {outcome : Except Raised request.Answer}
    (agrees : request.agrees state.answer (answers request) = true)
    (ended : state.worker.outcome? answers request = some outcome) :
    state.record.Admitted request outcome ∧
      ∀ task, request.awaited = some task → state.record.isDone task = true := by
  have excepted : ∀ error, answers request = .error error → error.isInstance .exception = true := by
    intro error raised
    rw [raised] at agrees
    cases request <;> exact agrees
  cases request with
  | monotonic =>
    simp only [WorkerState.outcome?] at ended
    split at ended
    · cases ended
      exact ⟨trivial, fun task awaits => by cases awaits⟩
    · cases ended
  | start =>
    cases ended
    exact ⟨trivial, fun task awaits => by cases awaits⟩
  | leaseLost =>
    obtain ⟨tasks, started, rfl⟩ := Option.map_eq_some_iff.mp ended
    refine ⟨?_, fun task awaits => by cases awaits⟩
    show tasks.leaseLost = state.worker.tasks.any (fun tasks => tasks.leaseLost)
    rw [started]
    rfl
  | stop task =>
    simp only [WorkerState.outcome?] at ended
    split at ended
    · next ready =>
      cases ended
      refine ⟨trivial, fun other awaits => ?_⟩
      cases awaits
      exact (record_isDone state _).trans ready
    · cases ended
  | awaitExecution =>
    simp only [WorkerState.outcome?] at ended
    split at ended
    · next execution heartbeat leaseLost started =>
      cases ended
      exact sound.admitted_execution started
    · cases ended
  | _ =>
    simp only [WorkerState.outcome?] at ended
    split at ended
    · cases ended
      exact ⟨trivial, fun task awaits => by cases awaits⟩
    · next error raised =>
      split at ended
      · cases ended
      · next other =>
        cases ended
        exact ⟨⟨Bool.eq_false_iff.mpr other, excepted error raised⟩,
          fun task awaits => by cases awaits⟩

/-- `process_claim` goes on with the `CancelledError` of a cancellation from outside. -/
theorem Sound.interrupted (sound : state.Sound run) {request : WorkerCall}
    {rest : Except Raised request.Answer → WorkerCoroutine Unit}
    (stands : state.worker.program = .call request rest)
    (cancelling : state.worker.cancelling = true) (suspends : request.suspends = true)
    (ready : state.worker.ready request = true) :
    (state.proceed (rest (.error .cancelled))).Sound run := by
  have follows := sound.stands
  rw [stands] at follows
  refine Sound.proceed (follows _ _ (.interrupted (.refl _) (fun task awaits => ?_) suspends
    (sound.interrupt cancelling))) sound.tasks sound.fenced
  rw [record_isDone]
  simpa only [WorkerState.ready, awaits] using ready

/-- A step of a task, as a change of the tasks. -/
theorem Sound.moved (sound : state.Sound run) {change : ClaimTasks → Option ClaimTasks}
    (progress : ∀ tasks tasks', tasks.Justified state.cancelled → change tasks = some tasks' →
      tasks.Progress state.cancelled tasks')
    (taken : (state.worker.tasks.bind change).map (fun tasks =>
      { state with worker := { state.worker with tasks := some tasks } }) = some state') :
    state'.Sound run := by
  obtain ⟨tasks', changed, rfl⟩ := Option.map_eq_some_iff.mp taken
  obtain ⟨tasks, started, moved⟩ := Option.bind_eq_some_iff.mp changed
  exact sound.progress started (progress tasks tasks' (sound.tasks tasks started) moved)

theorem of_next_execution {outcome : Except Raised (ExecutedPrediction × List Memory)}
    (taken : (state.worker.next (.execution outcome)).map (fun worker =>
      { state with worker := worker }) = some state') :
    (state.worker.tasks.bind (fun tasks => tasks.endExecution outcome)).map (fun tasks =>
      { state with worker := { state.worker with tasks := some tasks } }) = some state' := by
  simp only [WorkerState.next] at taken
  split at taken
  · rwa [Option.map_map] at taken
  · cases taken

theorem of_next_heartbeat {beat : Heartbeat} {recent : Bool}
    (taken : (state.worker.next (.heartbeat beat recent)).map (fun worker =>
      { state with worker := worker }) = some state') :
    (state.worker.tasks.bind (fun tasks => tasks.beat beat recent)).map (fun tasks =>
      { state with worker := { state.worker with tasks := some tasks } }) = some state' := by
  simp only [WorkerState.next] at taken
  split at taken
  · rwa [Option.map_map] at taken
  · cases taken

/-- `process_claim` goes on after a call that has ended in its own way. -/
theorem Sound.ended (sound : state.Sound run) {request : WorkerCall}
    {rest : Except Raised request.Answer → WorkerCoroutine Unit}
    {outcome : Except Raised request.Answer}
    (stands : state.worker.program = .call request rest)
    (admitted : state.record.Admitted request outcome ∧
      ∀ task, request.awaited = some task → state.record.isDone task = true) :
    ((state.note request outcome.isOk).proceed (rest outcome)).Sound run := by
  have follows := sound.stands
  rw [stands] at follows
  have grown : state.record.Grown (state.note request outcome.isOk).record :=
    ⟨rfl, fun entry member => List.mem_append_left _ member, fun task done => done, id, id⟩
  have noted : (request, outcome.isOk) ∈ (state.note request outcome.isOk).record.ended :=
    List.mem_append_right _ (List.mem_singleton_self _)
  refine Sound.proceed (follows outcome _ (.ended grown ?_ ?_ noted)) sound.tasks
    (sound.fenced.later rfl rfl rfl)
  · exact fun task awaits => grown.isDone task (admitted.2 task awaits)
  · exact admitted.1.later rfl rfl

/-- Every step keeps the invariant. -/
theorem Sound.step (sound : state.Sound run) {act : ClaimAct}
    (taken : next act state = some state') : state'.Sound run := by
  cases act with
  | resume answers =>
    simp only [next] at taken
    split at taken
    · cases taken
    · next request rest stands =>
      split at taken
      · next interrupted =>
        obtain ⟨cancelling, suspends⟩ := Bool.and_eq_true _ _ ▸ interrupted
        split at taken
        · next ready =>
          cases taken
          exact sound.interrupted stands cancelling suspends ready
        · cases taken
      · split at taken
        · next agrees =>
          obtain ⟨outcome, ended, rfl⟩ := Option.map_eq_some_iff.mp taken
          exact sound.ended stands (sound.admitted agrees ended)
        · cases taken
  | receive =>
    simp only [next] at taken
    split at taken
    · next rest outcome heartbeat leaseLost stands started =>
      cases taken
      exact sound.ended stands (sound.admitted_execution started)
    · cases taken
  | execution outcome =>
    simp only [next] at taken
    split at taken
    · next error =>
      split at taken
      · next either =>
        refine sound.moved (fun tasks tasks' justified ended => ?_) (of_next_execution taken)
        refine justified.endExecution (fun raised same other => ?_) ended
        cases same
        simpa [other] using either
      · cases taken
    · refine sound.moved (fun tasks tasks' justified ended => ?_) (of_next_execution taken)
      exact justified.endExecution (fun raised same => by cases same) ended
  | lateExecution outcome =>
    simp only [next] at taken
    split at taken
    · exact sound.moved (fun tasks tasks' justified ended => justified.endLate ended) taken
    · cases taken
  | heartbeat beat recent =>
    refine sound.moved (fun tasks tasks' justified beaten => ?_) (of_next_heartbeat taken)
    exact justified.beat beaten
  | cancel =>
    simp only [next] at taken
    split at taken
    · cases taken
      exact sound.cancel
    · cases taken
  | execute now locked =>
    simp only [next] at taken
    split at taken
    · next request rest stands unanswered =>
      split at taken
      · cases taken
      · next operation asked =>
        split at taken
        · cases taken
        · next answer db performed =>
          cases taken
          exact sound.execute stands unanswered asked performed
    · cases taken
  | other now locked operation =>
    simp only [next] at taken
    split at taken
    · cases taken
    · next answer db performed =>
      cases taken
      exact sound.other performed

/-! ## Whole runs -/

theorem Sound.initial {db : Database} (linked : db.Linked) (lower : Str → Str)
    (staleSeconds : Int) (expected : Str × Int) :
    (ClaimState.initial lower run staleSeconds expected db).Sound run := by
  let before : ClaimState :=
    ⟨⟨processClaim lower run staleSeconds expected, false, none, []⟩, db, none, false, [], []⟩
  have unsettled : before.record.Unsettled run := fun _ member => absurd member List.not_mem_nil
  have fenced : before.Fenced run :=
    ⟨linked, Nat.zero_le 1, fun _ => rfl, fun _ impossible => absurd rfl impossible⟩
  exact Sound.proceed (ClaimRecord.meets_processClaim staleSeconds expected unsettled)
    (fun _ started => by cases started) fenced

/-- What is true of a claim whose `process_claim` has ended. -/
structure Closed (run : ClaimedRun) (state : ClaimState) (outcome : Except Raised Unit) : Prop where
  tasks : ∃ tasks, state.worker.tasks = some tasks ∧ ∀ task, tasks.isDone task = true
  returned : outcome = .ok () → (∃ call, (call, true) ∈ state.ended ∧ call.Settles run) ∨
    ∃ tasks, state.worker.tasks = some tasks ∧ tasks.leaseLost = true
  raised : ∀ error, outcome = .error error → state.cancelled = true ∨
    ∃ call, (call, false) ∈ state.ended ∧ call.Fails run

/-- `process_claim` settles every claim, whatever its execution ends with, whatever the
store answers or raises, however its tasks and everybody else interleave, and whenever
and however often it is cancelled. -/
theorem process_claim_settles {lower : Str → Str} {staleSeconds : Int} {expected : Str × Int}
    {db : Database} (linked : db.Linked)
    (reached : Runs Step (initial lower run staleSeconds expected db) state) :
    state.effects.length ≤ 1 ∧
      ∀ outcome, state.worker.program = .done outcome → state.Closed run outcome := by
  have sound : state.Sound run := Runs.keeps reached (fun _ _ sound ⟨_, taken⟩ => sound.step taken)
    (Sound.initial linked lower staleSeconds expected)
  refine ⟨sound.fenced.once, fun outcome ended => ?_⟩
  have finished := sound.stands
  rw [ended] at finished
  obtain ⟨done, settled⟩ := finished
  obtain ⟨tasks, started, -⟩ := (Option.any_eq_true _ _).mp (done .execution)
  refine ⟨⟨tasks, started, fun task => ?_⟩, fun returned => ?_, fun error raised => ?_⟩
  · have observed := done task
    rw [record_isDone, started] at observed
    exact observed
  · subst returned
    refine settled.imp_right (fun lost => ?_)
    obtain ⟨tasks, started, lost⟩ := (Option.any_eq_true _ _).mp lost
    exact ⟨tasks, started, lost⟩
  · subst raised
    exact settled

/-! ## A small run -/

/-- The clock stands still, and the run is not the caller's any more. -/
def disownedAnswers : (call : WorkerCall) → Except Raised call.Answer
  | .monotonic => .ok 0
  | .recoverStale _ _ => .ok (0, 0)
  | .claimSummary _ _ => .ok none
  | .writeMemory _ => .ok []
  | .completeSummary _ | .retrySummary _ _ | .succeed _ _ => .ok false
  | .claim _ => .ok none
  | .start _ _ _ _ | .stop _ => .ok ()
  | .awaitExecution => .ok (⟨.str (lit "3"), .list [], .null⟩, [])
  | .fail _ _ _ _ => .ok none
  | .leaseLost => .ok false

/-- `succeed` is executed, but the connection is lost before it answers; `fail` then
finds the run finished, and both tasks are stopped. -/
def unansweredSuccess : List ClaimAct :=
  let proceed : ClaimAct := .resume disownedAnswers
  let lost : ClaimAct := .resume (fun _ => .error (.builtin [.other (lit "ConnectionError")]))
  [proceed, proceed, .execution (.ok (⟨.str (lit "3"), .list [], .null⟩, [])), proceed, proceed,
    .execute (seconds 2) (fun _ => false), lost, .execute (seconds 3) (fun _ => false), proceed,
    .heartbeat .raised true, proceed, proceed]

/-- The run is a success, `fail` has returned, and nothing is left behind. -/
theorem process_claim_settles_unanswered : ∃ state,
    Runs Step (initial id (smallClaim (lit "w") 1 2) 60 (lit "embed", 8) Processing.claimedDb)
      state ∧
    state.worker.program = .done (.ok ()) ∧ state.effects.length = 1 ∧
    state.Closed (smallClaim (lit "w") 1 2) (.ok ()) := by
  have ran : (replay next unansweredSuccess (initial id (smallClaim (lit "w") 1 2) 60
      (lit "embed", 8) Processing.claimedDb)).map (fun state =>
        (match state.worker.program with
          | .done (.ok _) => true
          | .done (.error _) | .call _ _ => false, state.effects.length)) = some (true, 1) := by
    decide +kernel
  obtain ⟨state, replayed, observed⟩ := Option.map_eq_some_iff.mp ran
  obtain ⟨finished, changed⟩ := Prod.mk.inj observed
  have reached : Runs Step _ state := runs_of_replay (fun act _ _ taken => ⟨act, taken⟩) replayed
  have ended : state.worker.program = .done (.ok ()) := by
    split at finished
    · next value same => exact same
    · cases finished
    · cases finished
  exact ⟨state, reached, ended, changed,
    (process_claim_settles Processing.claimedDb_linked reached).2 _ ended⟩

end ClaimState

end RlmApi
