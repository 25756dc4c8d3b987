import RlmApi.RetryClassification
import RlmApi.TransitionSystems

/-!
# The child process and its parent

`execute_rlm_subprocess` and `terminate_and_join` in the parent, and
`_rlm_subprocess_entrypoint` in the child, step by step and in any order. The parent may
be cancelled at each of its awaits. The child may die anywhere, also in the middle of
its message, and may ignore `SIGTERM`; after a `SIGKILL` it only dies. At the end of the
stream `poll` may answer either way.

A message is sent at once or in two parts. `poll` sees the first of them, and `recv` then
waits for the second, and holds up the event loop until it comes or the child dies.
-/

namespace RlmApi

/-! ## The child -/

/-- Where the child is in `_rlm_subprocess_entrypoint`. -/
inductive ChildPhase where
  /-- Before `os.setsid()`. -/
  | starting
  | computing
  | sending (payload : PyObject)
  /-- The beginning of the message is written. -/
  | writing (payload : PyObject)
  /-- The message is sent. -/
  | closing
  | dead

/-- What the parent can read. -/
inductive PipeState where
  | empty
  | message (payload : PyObject)
  /-- The beginning of a message. -/
  | begun

/-- What `asyncio.run(_execute_rlm_in_child(inputs))` ends with, where the program ends
with a prediction or raises. -/
def childOutcome : Except Raised Prediction → Except Raised PyObject
  | .ok prediction =>
    match executeRlmInChild prediction with
    | .ok payload => .ok payload
    | .error error => .error error.raised
  | .error error => .error error

/-- Where `execute_rlm_subprocess` is. From `closing` on it has an outcome, and is in its
cleanup. -/
inductive SupervisorPoint where
  /-- `receiver.poll()`. -/
  | polling
  /-- `process.is_alive()`. -/
  | checking
  /-- `receiver.poll()` once more. -/
  | pollingAgain
  /-- `receiver.recv()`. -/
  | receiving
  /-- `await asyncio.sleep(0.05)`. -/
  | sleeping
  /-- `receiver.close()`. -/
  | closing (outcome : Except Raised RLMSubprocessResult)
  /-- `terminate_and_join`, up to `process.is_alive()`. -/
  | asking (outcome : Except Raised RLMSubprocessResult)
  | terminating (outcome : Except Raised RLMSubprocessResult)
  /-- `await asyncio.to_thread(process.join, 5.0)`. -/
  | joining (outcome : Except Raised RLMSubprocessResult)
  | askingAgain (outcome : Except Raised RLMSubprocessResult)
  | killing (outcome : Except Raised RLMSubprocessResult)
  | joiningAgain (outcome : Except Raised RLMSubprocessResult)
  | ended (outcome : Except Raised RLMSubprocessResult)

/-- Parent and child, and what happened: what the child computed and whether its message
was sent, which signals were sent to it, and whether one was sent after it was reaped,
when its id may be that of another process. `cutShort` says that the cleanup was
cancelled. -/
structure Supervision where
  point : SupervisorPoint
  cancelling : Bool
  receiverOpen : Bool
  pipe : PipeState
  phase : ChildPhase
  /-- The child leads a process group of its own. -/
  leads : Bool
  /-- The processes of its group that it has started and that live. -/
  helpers : Nat
  reaped : Bool
  computed : Option (Except Raised Prediction)
  sent : Bool
  terminated : Bool
  killed : Bool
  strayed : Bool
  cancelled : Bool
  cutShort : Bool

inductive SupervisionAct where
  /-- The parent goes on; `readable` is what `poll` answers at the end of the stream. -/
  | proceed (readable : Bool)
  | cancel
  /-- `os.setsid()`, whose `OSError` is suppressed. -/
  | setsid (succeeds : Bool)
  | compute (outcome : Except Raised Prediction)
  | startHelper
  | endHelper
  /-- `sender.send(payload)`, up to where the pipe is full. -/
  | begin
  /-- `sender.send(payload)`, or what is left of it. -/
  | send
  | exit
  /-- The child dies, of a signal or of itself. -/
  | die

inductive Signal where
  | sigterm
  | sigkill

namespace Supervision

/-- After `process.start()` and `sender.close()`. -/
def initial : Supervision where
  point := .polling
  cancelling := false
  receiverOpen := true
  pipe := .empty
  phase := .starting
  leads := false
  helpers := 0
  reaped := false
  computed := none
  sent := false
  terminated := false
  killed := false
  strayed := false
  cancelled := false
  cutShort := false

def dead (state : Supervision) : Bool :=
  match state.phase with
  | .dead => true
  | _ => false

/-- The child has closed its end of the pipe. -/
def closed (state : Supervision) : Bool :=
  match state.phase with
  | .closing | .dead => true
  | _ => false

/-- `receiver.poll()`. -/
def poll (state : Supervision) (readable : Bool) : Bool :=
  match state.pipe with
  | .message _ | .begun => true
  | .empty => state.closed && readable

/-- What `decode_subprocess_payload` returns or raises. -/
def reportOf (payload : PyObject) : Except Raised RLMSubprocessResult :=
  match decodeSubprocessPayload payload with
  | .ok result => .ok result
  | .error error => .error (.remote error)

/-- `receiver.recv()`, where it does not wait for more. -/
def received (state : Supervision) : Option (Except Raised RLMSubprocessResult) :=
  match state.pipe with
  | .message payload => some (reportOf payload)
  | .begun => if state.closed then some (.error (.builtin [.other (lit "OSError")])) else none
  | .empty => if state.closed then some (.error (.builtin [.other (lit "EOFError")])) else none

/-- `process.is_alive()`, which reaps a child that has died. -/
def asked (state : Supervision) : Bool × Supervision :=
  (!state.dead, { state with reaped := state.reaped || state.dead })

/-- `_signal_process_tree`: the group of the child, if it leads one, or the child. -/
def signalTree (signum : Signal) (state : Supervision) : Supervision :=
  match signum with
  | .sigterm => { state with terminated := true, strayed := state.strayed || state.reaped }
  | .sigkill =>
    { state with
      killed := true
      strayed := state.strayed || state.reaped
      helpers := if state.leads then 0 else state.helpers }

/-- The coroutine is suspended. -/
def suspended (state : Supervision) : Bool :=
  match state.point with
  | .sleeping | .joining _ | .joiningAgain _ => true
  | _ => false

/-- `CancelledError` is raised at an await of the cleanup, and replaces its outcome. -/
def cut (state : Supervision) : Supervision :=
  { state with
    point := .ended (.error .cancelled)
    cancelling := false
    cancelled := true
    cutShort := true }

/-- One step of the parent. -/
def proceed (readable : Bool) (state : Supervision) : Option Supervision :=
  match state.point with
  | .polling =>
    some { state with point := if state.poll readable then .receiving else .checking }
  | .checking =>
    let answer := state.asked
    some { answer.2 with point := if answer.1 then .sleeping else .pollingAgain }
  | .pollingAgain =>
    some { state with
      point := if state.poll readable then .receiving
        else .closing (.error (.remote ⟨lit "ChildProcessExit", true⟩)) }
  | .receiving =>
    state.received.map (fun outcome => { state with point := .closing outcome, pipe := .empty })
  | .sleeping =>
    if state.cancelling then
      some { state with
        point := .closing (.error .cancelled), cancelling := false, cancelled := true }
    else some { state with point := .polling }
  | .closing outcome => some { state with point := .asking outcome, receiverOpen := false }
  | .asking outcome =>
    let answer := state.asked
    some { answer.2 with point := if answer.1 then .terminating outcome else .joining outcome }
  | .terminating outcome => some { state.signalTree .sigterm with point := .joining outcome }
  | .joining outcome =>
    if state.cancelling then some state.cut
    else some { state.asked.2 with point := .askingAgain outcome }
  | .askingAgain outcome =>
    let answer := state.asked
    some { answer.2 with point := if answer.1 then .killing outcome else .ended outcome }
  | .killing outcome => some { state.signalTree .sigkill with point := .joiningAgain outcome }
  | .joiningAgain outcome =>
    if state.cancelling then some state.cut else some { state.asked.2 with point := .ended outcome }
  | .ended _ => none

/-- What `sender.send` leaves behind. It raises if nobody can receive. -/
def sendStep (state : Supervision) (written : Supervision) : Supervision :=
  if state.receiverOpen then written else { state with phase := .dead }

/-- One step of the child. -/
def childStep (lower : Str → Str) (act : SupervisionAct) (state : Supervision) :
    Option Supervision :=
  match act, state.phase with
  | .setsid succeeds, .starting => some { state with phase := .computing, leads := succeeds }
  | .compute outcome, .computing =>
    some { state with
      phase := .sending (rlmSubprocessEntrypoint lower (childOutcome outcome))
      computed := some outcome }
  | .startHelper, .computing => some { state with helpers := state.helpers + 1 }
  | .begin, .sending payload =>
    some (state.sendStep { state with phase := .writing payload, pipe := .begun })
  | .send, .sending payload | .send, .writing payload =>
    some (state.sendStep
      { state with phase := .closing, pipe := .message payload, sent := true })
  | .exit, .closing => some { state with phase := .dead }
  | _, _ => none

/-- The step function. -/
def next (lower : Str → Str) (act : SupervisionAct) (state : Supervision) : Option Supervision :=
  match act with
  | .proceed readable => state.proceed readable
  | .cancel => if state.suspended then some { state with cancelling := true } else none
  | .endHelper => some { state with helpers := state.helpers - 1 }
  | .die => if state.dead then none else some { state with phase := .dead }
  | act => if state.killed then none else state.childStep lower act

/-- One step, of either. -/
def Step (lower : Str → Str) (state state' : Supervision) : Prop :=
  ∃ act, next lower act state = some state'

/-- The states that steps lead to from the start of the child. -/
def Reachable (lower : Str → Str) (state : Supervision) : Prop := Runs (Step lower) initial state

/-- The parent waits in `recv` for the rest of a message, and its event loop with it. -/
def Waiting (state : Supervision) : Prop :=
  state.point = .receiving ∧ state.pipe = .begun ∧ ∃ payload, state.phase = .writing payload

end Supervision

end RlmApi
