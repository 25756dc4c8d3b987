import RlmApi.TransitionSystems
import RlmApi.WorkerCoroutines

/-!
# Tasks of the worker

A coroutine of the worker runs as one task, and `process_claim` starts two more, the
execution and the heartbeat loop. Only one task runs at a time, and it gives way where
it is suspended. What the store, the clock and the execution answer is open.

A task that is cancelled is interrupted at the await at which it is suspended: if it
awaits another task, that one is cancelled too, and `CancelledError` is raised once it
has ended.
-/

namespace RlmApi

/-- The execution of a claim. -/
inductive ExecutionState where
  | running (cancelling : Bool)
  | ended (outcome : Except Raised (ExecutedPrediction × List Memory))

/-- Where the heartbeat loop awaits: `sleep`, `store.heartbeat`, or `store.add_event`
after the lease was lost. -/
inductive HeartbeatPoint where
  | sleeping
  | beating
  | reporting
deriving DecidableEq

inductive HeartbeatState where
  | running (point : HeartbeatPoint) (cancelling : Bool)
  | ended
deriving DecidableEq

/-- What `process_claim` starts. -/
structure ClaimTasks where
  execution : ExecutionState
  heartbeat : HeartbeatState
  leaseLost : Bool

namespace ClaimTasks

/-- Both tasks before their first step. -/
def started : ClaimTasks := ⟨.running false, .running .sleeping false, false⟩

/-- `task.cancel()`, which does nothing to a task that has ended. -/
def cancel (tasks : ClaimTasks) : ClaimTask → ClaimTasks
  | .execution =>
    match tasks.execution with
    | .running _ => { tasks with execution := .running true }
    | .ended _ => tasks
  | .heartbeat =>
    match tasks.heartbeat with
    | .running point _ => { tasks with heartbeat := .running point true }
    | .ended => tasks

/-- `task.done()`. -/
def isDone (tasks : ClaimTasks) : ClaimTask → Bool
  | .execution =>
    match tasks.execution with
    | .running _ => false
    | .ended _ => true
  | .heartbeat => tasks.heartbeat = .ended

/-- The execution ends. A cancelled one ends with `CancelledError`, and no other does. -/
def endExecution (tasks : ClaimTasks)
    (outcome : Except Raised (ExecutedPrediction × List Memory)) : Option ClaimTasks :=
  match tasks.execution with
  | .running true => some { tasks with execution := .ended (.error .cancelled) }
  | .running false =>
    match outcome with
    | .error error =>
      if error.isInstance .cancelledError then none
      else some { tasks with execution := .ended (.error error) }
    | .ok value => some { tasks with execution := .ended (.ok value) }
  | .ended _ => none

/-- The heartbeat loop is resumed. `recent` says whether the last confirmation was less
than nine tenths of the stale period ago. -/
def beat (tasks : ClaimTasks) (answer : Heartbeat) (recent : Bool) : Option ClaimTasks :=
  match tasks.heartbeat with
  | .ended => none
  | .running _ true => some { tasks with heartbeat := .ended }
  | .running .sleeping false => some { tasks with heartbeat := .running .beating false }
  | .running .beating false =>
    if answer = .answered true ∨ (answer = .raised ∧ recent = true) then
      some { tasks with heartbeat := .running .sleeping false }
    else some { tasks with heartbeat := .running .reporting false, leaseLost := true }
  | .running .reporting false => some { (tasks.cancel .execution) with heartbeat := .ended }

end ClaimTasks

/-- What a call does before it suspends. -/
def WorkerCall.begin (call : WorkerCall) (tasks : Option ClaimTasks) : Option ClaimTasks :=
  match call with
  | .start _ _ _ _ => some .started
  | .stop task => tasks.map (fun tasks => tasks.cancel task)
  | _ => tasks

/-- The task that a call awaits. -/
def WorkerCall.awaited : WorkerCall → Option ClaimTask
  | .awaitExecution => some .execution
  | .stop task => some task
  | _ => none

/-- A coroutine in execution, with the tasks it has started, the calls it has made, and
whether it is to be interrupted where it is suspended. -/
structure WorkerState (α : Type) where
  program : WorkerCoroutine α
  cancelling : Bool
  tasks : Option ClaimTasks
  calls : List WorkerCall

/-- What happens next. -/
inductive WorkerAct where
  /-- The coroutine is resumed, and the store or the clock has answered. -/
  | resume (answers : (call : WorkerCall) → Except Raised call.Answer)
  | execution (outcome : Except Raised (ExecutedPrediction × List Memory))
  | heartbeat (answer : Heartbeat) (recent : Bool)

namespace WorkerState

variable {α : Type}

/-- Go on until the next call, and make it. -/
def advanced (state : WorkerState α) (program : WorkerCoroutine α) : WorkerState α :=
  match program with
  | .done _ => { state with program := program }
  | .call request _ =>
    { state with
      program := program
      tasks := request.begin state.tasks
      calls := state.calls ++ [request] }

/-- A coroutine up to its first call. -/
def initial (program : WorkerCoroutine α) : WorkerState α :=
  advanced ⟨program, false, none, []⟩ program

/-- Other tasks may run. -/
def suspended (state : WorkerState α) : Bool :=
  match state.program with
  | .done _ => true
  | .call request _ => request.suspends

/-- The task that a call awaits has ended. -/
def ready (state : WorkerState α) (request : WorkerCall) : Bool :=
  match request.awaited with
  | none => true
  | some task => state.tasks.any (fun tasks => tasks.isDone task)

/-- How a call ends that is not interrupted, if it can end now. The clock cannot fail,
and no store raises `CancelledError` of its own. -/
def outcome? (state : WorkerState α) (answers : (call : WorkerCall) → Except Raised call.Answer)
    (request : WorkerCall) : Option (Except Raised request.Answer) :=
  match request with
  | .leaseLost => state.tasks.map (fun tasks => .ok tasks.leaseLost)
  | .start _ _ _ _ => some (.ok ())
  | .stop task => if state.ready (.stop task) then some (.ok ()) else none
  | .awaitExecution =>
    match state.tasks with
    | some ⟨.ended outcome, _, _⟩ => some outcome
    | _ => none
  | .monotonic =>
    match answers .monotonic with
    | .ok time => some (.ok time)
    | .error _ => none
  | request =>
    match answers request with
    | .ok answer => some (.ok answer)
    | .error error => if error.isInstance .cancelledError then none else some (.error error)

/-- `cycle_task.cancel()`, and of the task that the coroutine awaits. -/
def cancel (state : WorkerState α) : WorkerState α :=
  match state.program with
  | .done _ => state
  | .call request _ =>
    { state with
      cancelling := true
      tasks := match request.awaited with
        | none => state.tasks
        | some task => state.tasks.map (fun tasks => tasks.cancel task) }

/-- Resume the coroutine, if the call at which it stands can end. -/
def resume (state : WorkerState α) (answers : (call : WorkerCall) → Except Raised call.Answer) :
    Option (WorkerState α) :=
  match state.program with
  | .done _ => none
  | .call request rest =>
    if state.cancelling && request.suspends then
      if state.ready request then
        some ({ state with cancelling := false }.advanced (rest (.error .cancelled)))
      else none
    else (state.outcome? answers request).map (fun outcome => state.advanced (rest outcome))

/-- One step of one task. -/
def next (act : WorkerAct) (state : WorkerState α) : Option (WorkerState α) :=
  match act with
  | .resume answers => state.resume answers
  | .execution outcome =>
    if state.suspended then
      (state.tasks.bind (fun tasks => tasks.endExecution outcome)).map (fun tasks =>
        { state with tasks := some tasks })
    else none
  | .heartbeat answer recent =>
    if state.suspended then
      (state.tasks.bind (fun tasks => tasks.beat answer recent)).map (fun tasks =>
        { state with tasks := some tasks })
    else none

/-- One step: an interrupt, the end of a call, or a step of another task. -/
inductive Moved (state : WorkerState α) : WorkerState α → Prop
  | interrupted {request : WorkerCall} {rest : Except Raised request.Answer → WorkerCoroutine α}
      (stands : state.program = .call request rest) (cancelling : state.cancelling = true)
      (suspends : request.suspends = true) :
      Moved state ({ state with cancelling := false }.advanced (rest (.error .cancelled)))
  | ended {request : WorkerCall} {rest : Except Raised request.Answer → WorkerCoroutine α}
      {answers : (call : WorkerCall) → Except Raised call.Answer}
      {outcome : Except Raised request.Answer} (stands : state.program = .call request rest)
      (uninterrupted : (state.cancelling && request.suspends) = false)
      (answered : state.outcome? answers request = some outcome) :
      Moved state (state.advanced (rest outcome))
  | other {tasks : ClaimTasks} (suspended : state.suspended = true) :
      Moved state { state with tasks := some tasks }

theorem moved_of_next {act : WorkerAct} {state state' : WorkerState α}
    (taken : state.next act = some state') : Moved state state' := by
  cases act with
  | resume answers =>
    simp only [next, resume] at taken
    split at taken
    · cases taken
    · next request rest stands =>
      split at taken
      · next interrupted =>
        obtain ⟨cancelling, suspends⟩ := Bool.and_eq_true _ _ ▸ interrupted
        split at taken
        · cases taken
          exact .interrupted stands cancelling suspends
        · cases taken
      · next uninterrupted =>
        obtain ⟨outcome, answered, rfl⟩ := Option.map_eq_some_iff.mp taken
        exact .ended stands (Bool.eq_false_iff.mpr uninterrupted) answered
  | execution outcome =>
    simp only [next] at taken
    split at taken
    · next suspended =>
      obtain ⟨tasks, -, rfl⟩ := Option.map_eq_some_iff.mp taken
      exact .other suspended
    · cases taken
  | heartbeat answer recent =>
    simp only [next] at taken
    split at taken
    · next suspended =>
      obtain ⟨tasks, -, rfl⟩ := Option.map_eq_some_iff.mp taken
      exact .other suspended
    · cases taken

/-- Going on makes one call, or none. -/
theorem calls_advanced (state : WorkerState α) (program : WorkerCoroutine α) :
    ∃ made, (state.advanced program).calls = state.calls ++ made := by
  cases program with
  | done outcome => exact ⟨[], (List.append_nil _).symm⟩
  | call request rest => exact ⟨[request], rfl⟩

theorem calls_cancel (state : WorkerState α) : state.cancel.calls = state.calls := by
  unfold cancel
  split <;> rfl

theorem program_advanced (state : WorkerState α) (program : WorkerCoroutine α) :
    (state.advanced program).program = program := by
  cases program with
  | done outcome => rfl
  | call request rest => rfl

theorem program_cancel (state : WorkerState α) : state.cancel.program = state.program := by
  unfold cancel
  split
  · rfl
  · rfl

theorem Moved.calls {state state' : WorkerState α} (moved : Moved state state') :
    ∃ made, state'.calls = state.calls ++ made := by
  cases moved with
  | interrupted | ended => exact calls_advanced _ _
  | other => exact ⟨[], (List.append_nil _).symm⟩

end WorkerState

end RlmApi
