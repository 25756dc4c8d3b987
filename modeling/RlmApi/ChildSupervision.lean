import RlmApi.ChildProcess
import RlmApi.ResultRoundTrip

/-!
# Supervision of the child process

Whatever the child computes arrives as it is, a child that dies without a report is a
failure that is retried, and no child is left behind unless the cleanup itself is
cancelled. The parent is never stuck, except that it may wait for the rest of a message.
-/

namespace RlmApi

namespace Supervision

/-! ## The invariant -/

/-- The outcome of `execute_rlm_subprocess` that a computation of the child deserves. -/
inductive Reports (lower : Str → Str) : Except Raised Prediction →
    Except Raised RLMSubprocessResult → Prop
  | result {answer : Str} {evidence : List Str} {trajectory : PyObject} :
      Reports lower (.ok ⟨.str answer, .list (evidence.map .str), trajectory⟩)
        (.ok ⟨answer, evidence, trajectory.jsonValue⟩)
  | invalid {prediction : Prediction} {error : PyError}
      (refused : executeRlmInChild prediction = .error error) :
      Reports lower (.ok prediction) (.error (.remote ⟨error.raised.typeName,
        childExceptionIsRetryable lower error.raised⟩))
  | raised {error : Raised} :
      Reports lower (.error error) (.error (.remote ⟨error.typeName,
        childExceptionIsRetryable lower error⟩))

/-- The child's report, as the parent decodes it. -/
theorem reports_decoded (lower : Str → Str) (computed : Except Raised Prediction) :
    Reports lower computed (reportOf (rlmSubprocessEntrypoint lower (childOutcome computed))) := by
  cases computed with
  | error error =>
    rw [childOutcome, reportOf, decode_entrypoint_error]
    exact .raised
  | ok prediction =>
    cases executed : executeRlmInChild prediction with
    | error error =>
      simp only [childOutcome, executed, reportOf, decode_entrypoint_error]
      exact .invalid executed
    | ok payload =>
      obtain ⟨answer, evidence, isText, isList, rfl⟩ := executeRlmInChild_ok executed
      obtain ⟨found, listed, trajectory⟩ := prediction
      obtain rfl : found = .str answer := isText
      obtain rfl : listed = .list (evidence.map .str) := isList
      simp only [childOutcome, executed, reportOf, rlmSubprocessEntrypoint,
        decodeSubprocessPayload_childPayload, jsonValue_pyObject_jsonValue]
      exact .result

/-- What the parent has is the child's report, or the child has died without one, or the
parent was cancelled. -/
def Explained (lower : Str → Str) (state : Supervision)
    (outcome : Except Raised RLMSubprocessResult) : Prop :=
  (outcome = .error .cancelled ∧ state.cancelled = true) ∨
  (state.sent = true ∧ ∃ computed, state.computed = some computed ∧
    Reports lower computed outcome) ∨
  (state.dead = true ∧ state.sent = false ∧
    ∃ error, outcome = .error error ∧ isRetryableFailure lower error = true)

/-- What was sent is still there. -/
def Watching (state : Supervision) : Prop :=
  state.sent = true → ∃ payload, state.pipe = .message payload

/-- There is something to read, if only the end of the stream. -/
def Readable (state : Supervision) : Prop := state.pipe ≠ .empty ∨ state.closed = true

/-- In the cleanup, once the receiver is closed. -/
structure Cleaning (lower : Str → Str) (state : Supervision)
    (outcome : Except Raised RLMSubprocessResult) : Prop where
  explained : state.Explained lower outcome
  receiver : state.receiverOpen = false

/-- What holds at each point of the parent. -/
def Stage (lower : Str → Str) (state : Supervision) : SupervisorPoint → Prop
  | .polling | .checking | .sleeping => state.Watching
  | .pollingAgain => state.Watching ∧ state.dead = true
  | .receiving => state.Watching ∧ state.Readable
  | .closing outcome => state.Explained lower outcome
  | .asking outcome => state.Cleaning lower outcome
  | .terminating outcome => state.Cleaning lower outcome ∧ state.reaped = false
  | .joining outcome | .askingAgain outcome =>
    state.Cleaning lower outcome ∧ (state.dead = true ∨ state.terminated = true)
  | .killing outcome =>
    state.Cleaning lower outcome ∧ state.terminated = true ∧ state.reaped = false
  | .joiningAgain outcome =>
    state.Cleaning lower outcome ∧ state.terminated = true ∧ state.killed = true
  | .ended outcome =>
    state.Cleaning lower outcome ∧ (state.dead = true ∨ state.terminated = true) ∧
      (state.cutShort = false → state.dead = true ∨ state.killed = true)

structure Sound (lower : Str → Str) (state : Supervision) : Prop where
  message : ∀ payload, state.pipe = .message payload → state.sent = true ∧
    ∃ computed, state.computed = some computed ∧
      payload = rlmSubprocessEntrypoint lower (childOutcome computed)
  sending : ∀ payload, state.phase = .sending payload ∨ state.phase = .writing payload →
    state.sent = false ∧ ∃ computed, state.computed = some computed ∧
      payload = rlmSubprocessEntrypoint lower (childOutcome computed)
  unsent : state.phase = .starting ∨ state.phase = .computing → state.sent = false
  closing : state.phase = .closing → state.sent = true
  begun : state.pipe = .begun → state.sent = false ∧
    (state.dead = true ∨ ∃ payload, state.phase = .writing payload)
  reaped : state.reaped = true → state.dead = true
  strayed : state.strayed = false
  group : state.killed = true → state.leads = true → state.helpers = 0
  stage : state.Stage lower state.point

section Steps

variable {lower : Str → Str} {state state' : Supervision}

theorem sound_initial (lower : Str → Str) : Sound lower initial where
  message _ sent := by cases sent
  sending _ phase := by rcases phase with phase | phase <;> cases phase
  unsent _ := rfl
  closing phase := by cases phase
  begun begun := by cases begun
  reaped reaped := by cases reaped
  strayed := rfl
  group killed := by cases killed
  stage sent := by cases sent

theorem dead_iff (state : Supervision) : state.dead = true ↔ state.phase = .dead := by
  unfold dead
  split
  · next phase => simp [phase]
  · next other => simpa using other

/-! ### Steps of the child -/

/-- A step of the child takes nothing back that the parent has seen. -/
structure Later (state state' : Supervision) : Prop where
  point : state'.point = state.point
  receiver : state'.receiverOpen = state.receiverOpen
  reaped : state'.reaped = state.reaped
  terminated : state'.terminated = state.terminated
  killed : state'.killed = state.killed
  cancelled : state'.cancelled = state.cancelled
  cutShort : state'.cutShort = state.cutShort
  dead : state.dead = true → state'.dead = true ∧ state'.sent = state.sent
  sent : state.sent = true → state'.sent = true ∧ state'.computed = state.computed
  watching : state.Watching → state'.Watching
  readable : state.Readable → state'.Readable

theorem Explained.later {outcome : Except Raised RLMSubprocessResult}
    (explained : state.Explained lower outcome) (later : Later state state') :
    state'.Explained lower outcome := by
  rcases explained with ⟨same, cancelled⟩ | ⟨sent, computed⟩ | ⟨dead, unsent, failed⟩
  · exact Or.inl ⟨same, later.cancelled.trans cancelled⟩
  · obtain ⟨stays, same⟩ := later.sent sent
    exact Or.inr (Or.inl ⟨stays, same ▸ computed⟩)
  · obtain ⟨stays, same⟩ := later.dead dead
    exact Or.inr (Or.inr ⟨stays, same.trans unsent, failed⟩)

theorem Cleaning.later {outcome : Except Raised RLMSubprocessResult}
    (cleaning : state.Cleaning lower outcome) (later : Later state state') :
    state'.Cleaning lower outcome :=
  ⟨cleaning.explained.later later, later.receiver.trans cleaning.receiver⟩

theorem Stage.later (stage : state.Stage lower state.point) (later : Later state state') :
    state'.Stage lower state'.point := by
  rw [later.point]
  have ended : state.dead = true ∨ state.terminated = true →
      state'.dead = true ∨ state'.terminated = true := by
    rintro (dead | terminated)
    · exact Or.inl (later.dead dead).1
    · exact Or.inr (later.terminated.trans terminated)
  cases at_ : state.point with
  | polling | checking | sleeping =>
    rw [at_] at stage
    exact later.watching stage
  | pollingAgain =>
    rw [at_] at stage
    exact ⟨later.watching stage.1, (later.dead stage.2).1⟩
  | receiving =>
    rw [at_] at stage
    exact ⟨later.watching stage.1, later.readable stage.2⟩
  | closing outcome =>
    rw [at_] at stage
    exact Explained.later stage later
  | asking outcome =>
    rw [at_] at stage
    exact Cleaning.later stage later
  | terminating outcome =>
    rw [at_] at stage
    exact ⟨stage.1.later later, later.reaped.trans stage.2⟩
  | joining outcome | askingAgain outcome =>
    rw [at_] at stage
    exact ⟨stage.1.later later, ended stage.2⟩
  | killing outcome =>
    rw [at_] at stage
    exact ⟨stage.1.later later, later.terminated.trans stage.2.1, later.reaped.trans stage.2.2⟩
  | joiningAgain outcome =>
    rw [at_] at stage
    exact ⟨stage.1.later later, later.terminated.trans stage.2.1, later.killed.trans stage.2.2⟩
  | ended outcome =>
    rw [at_] at stage
    refine ⟨stage.1.later later, ended stage.2.1, fun whole => ?_⟩
    rcases stage.2.2 (later.cutShort.symm.trans whole) with dead | killed
    · exact Or.inl (later.dead dead).1
    · exact Or.inr (later.killed.trans killed)

/-- A step that neither reads nor ends anything. -/
theorem Later.of_running (live : state.dead = true → False)
    (pipe : state'.pipe = state.pipe) (closed : state.closed = true → state'.closed = true)
    (sent : state.sent = true → state'.sent = true ∧ state'.computed = state.computed)
    (parent : state'.point = state.point ∧ state'.receiverOpen = state.receiverOpen ∧
      state'.reaped = state.reaped ∧ state'.terminated = state.terminated ∧
      state'.killed = state.killed ∧ state'.cancelled = state.cancelled ∧
      state'.cutShort = state.cutShort)
    (unsent : state'.sent = true → state.sent = true) : Later state state' := by
  obtain ⟨point, receiver, reaped, terminated, killed, cancelled, cutShort⟩ := parent
  refine ⟨point, receiver, reaped, terminated, killed, cancelled, cutShort,
    fun dead => (live dead).elim, sent, fun watching later => ?_, fun there => ?_⟩
  · rw [pipe]
    exact watching (unsent later)
  · rw [Readable, pipe]
    exact there.imp id closed

/-- The death of the child keeps the invariant, also in the middle of its message. -/
theorem Sound.dies (sound : state.Sound lower) (live : state.dead = true → False) :
    Sound lower { state with phase := .dead } where
  message := sound.message
  sending _ phase := by rcases phase with phase | phase <;> cases phase
  unsent early := by rcases early with phase | phase <;> cases phase
  closing phase := by cases phase
  begun begun := ⟨(sound.begun begun).1, Or.inl rfl⟩
  reaped _ := rfl
  strayed := sound.strayed
  group := sound.group
  stage := sound.stage.later ⟨rfl, rfl, rfl, rfl, rfl, rfl, rfl, fun dead => (live dead).elim,
    fun sent => ⟨sent, rfl⟩, id, fun _ => Or.inr rfl⟩

theorem Sound.setsid (sound : state.Sound lower) (running : state.killed = false)
    (phase : state.phase = .starting) (succeeds : Bool) :
    Sound lower { state with phase := .computing, leads := succeeds } := by
  have live : state.dead = true → False := fun dead => by
    cases phase.symm.trans ((dead_iff state).mp dead)
  have unsent := sound.unsent (Or.inl phase)
  exact
    { sound with
      sending := fun _ other => by rcases other with other | other <;> cases other
      unsent := fun _ => unsent
      closing := fun other => by cases other
      begun := fun begun => by
        obtain ⟨-, dead | ⟨payload, writing⟩⟩ := sound.begun begun
        · exact (live dead).elim
        · cases phase.symm.trans writing
      reaped := fun reaped => (live (sound.reaped reaped)).elim
      group := fun killed => by cases running.symm.trans killed
      stage := sound.stage.later (Later.of_running live rfl
        (fun closed => by simp [phase, Supervision.closed] at closed)
        (fun sent => ⟨sent, rfl⟩) ⟨rfl, rfl, rfl, rfl, rfl, rfl, rfl⟩ id) }

theorem Sound.compute (sound : state.Sound lower) (running : state.killed = false)
    (phase : state.phase = .computing) (outcome : Except Raised Prediction) :
    Sound lower { state with
      phase := .sending (rlmSubprocessEntrypoint lower (childOutcome outcome))
      computed := some outcome } := by
  have live : state.dead = true → False := fun dead => by
    cases phase.symm.trans ((dead_iff state).mp dead)
  have unsent := sound.unsent (Or.inr phase)
  exact
    { sound with
      message := fun payload pipe => by cases unsent.symm.trans (sound.message payload pipe).1
      sending := fun payload phase => by
        rcases phase with phase | phase <;> cases phase
        exact ⟨unsent, outcome, rfl, rfl⟩
      unsent := fun _ => unsent
      closing := fun other => by cases other
      begun := fun begun => by
        obtain ⟨-, dead | ⟨payload, writing⟩⟩ := sound.begun begun
        · exact (live dead).elim
        · cases phase.symm.trans writing
      reaped := fun reaped => (live (sound.reaped reaped)).elim
      group := fun killed => by cases running.symm.trans killed
      stage := sound.stage.later (Later.of_running live rfl
        (fun closed => by simp [phase, Supervision.closed] at closed)
        (fun sent => by cases unsent.symm.trans sent) ⟨rfl, rfl, rfl, rfl, rfl, rfl, rfl⟩ id) }

theorem Sound.startHelper (sound : state.Sound lower) (running : state.killed = false)
    (phase : state.phase = .computing) :
    Sound lower { state with helpers := state.helpers + 1 } := by
  have live : state.dead = true → False := fun dead => by
    cases phase.symm.trans ((dead_iff state).mp dead)
  exact
    { sound with
      group := fun killed => by cases running.symm.trans killed
      stage := sound.stage.later (Later.of_running live rfl id
        (fun sent => ⟨sent, rfl⟩) ⟨rfl, rfl, rfl, rfl, rfl, rfl, rfl⟩ id) }

/-- The first part of the message. -/
theorem Sound.begin (sound : state.Sound lower) (running : state.killed = false)
    {payload : PyObject} (phase : state.phase = .sending payload) :
    Sound lower { state with phase := .writing payload, pipe := .begun } := by
  have live : state.dead = true → False := fun dead => by
    cases phase.symm.trans ((dead_iff state).mp dead)
  obtain ⟨unsent, origin⟩ := sound.sending payload (Or.inl phase)
  have later : Later state { state with phase := .writing payload, pipe := .begun } :=
    ⟨rfl, rfl, rfl, rfl, rfl, rfl, rfl, fun dead => (live dead).elim,
      (fun sent => by cases unsent.symm.trans sent),
      (fun _ sent => by cases unsent.symm.trans sent), fun _ => Or.inl (fun same => by cases same)⟩
  exact
    { sound with
      message := fun _ other => by cases other
      sending := fun _ other => by
        rcases other with other | other <;> cases other
        exact ⟨unsent, origin⟩
      unsent := fun early => by rcases early with other | other <;> cases other
      closing := fun other => by cases other
      begun := fun _ => ⟨unsent, Or.inr ⟨payload, rfl⟩⟩
      reaped := fun reaped => (live (sound.reaped reaped)).elim
      group := fun killed => by cases running.symm.trans killed
      stage := sound.stage.later later }

/-- The message, or what was left of it. -/
theorem Sound.send (sound : state.Sound lower) (running : state.killed = false)
    {payload : PyObject} (phase : state.phase = .sending payload ∨ state.phase = .writing payload) :
    Sound lower
      { state with phase := .closing, pipe := .message payload, sent := true } := by
  have live : state.dead = true → False := fun dead => by
    have ended := (dead_iff state).mp dead
    rcases phase with phase | phase <;> cases phase.symm.trans ended
  obtain ⟨unsent, computed, found, same⟩ := sound.sending payload phase
  have later : Later state
      { state with phase := .closing, pipe := .message payload, sent := true } :=
    ⟨rfl, rfl, rfl, rfl, rfl, rfl, rfl, fun dead => (live dead).elim,
      (fun sent => by cases unsent.symm.trans sent), fun _ _ => ⟨payload, rfl⟩,
      fun _ => Or.inr rfl⟩
  exact
    { sound with
      message := fun _ there => by
        cases there
        exact ⟨rfl, computed, found, same⟩
      sending := fun _ other => by rcases other with other | other <;> cases other
      unsent := fun early => by rcases early with other | other <;> cases other
      closing := fun _ => rfl
      begun := fun begun => by cases begun
      reaped := fun reaped => (live (sound.reaped reaped)).elim
      group := fun killed => by cases running.symm.trans killed
      stage := sound.stage.later later }

/-- A `send` that raises ends the child. -/
theorem Sound.sendStep (sound : state.Sound lower) (live : state.dead = true → False)
    {written : Supervision} (sends : written.Sound lower) :
    (state.sendStep written).Sound lower := by
  unfold Supervision.sendStep
  split
  · exact sends
  · exact sound.dies live

/-- A step of the child keeps the invariant. -/
theorem Sound.childStep (sound : state.Sound lower) {act : SupervisionAct}
    (running : state.killed = false) (taken : state.childStep lower act = some state') :
    state'.Sound lower := by
  have alive {phase : ChildPhase} (at_ : state.phase = phase) (other : phase ≠ .dead) :
      state.dead = true → False := by
    intro dead
    exact other (at_.symm.trans ((dead_iff state).mp dead))
  unfold Supervision.childStep at taken
  split at taken
  · next succeeds phase =>
    cases taken
    exact sound.setsid running phase succeeds
  · next outcome phase =>
    cases taken
    exact sound.compute running phase outcome
  · next phase =>
    cases taken
    exact sound.startHelper running phase
  · next payload phase =>
    cases taken
    exact sound.sendStep (alive phase (fun same => by cases same)) (sound.begin running phase)
  · next payload phase =>
    cases taken
    exact sound.sendStep (alive phase (fun same => by cases same))
      (sound.send running (Or.inl phase))
  · next payload phase =>
    cases taken
    exact sound.sendStep (alive phase (fun same => by cases same))
      (sound.send running (Or.inr phase))
  · next phase =>
    cases taken
    exact sound.dies (alive phase (fun same => by cases same))
  · cases taken

/-- So does its death by a signal. -/
theorem Sound.die (sound : state.Sound lower) (taken : next lower .die state = some state') :
    state'.Sound lower := by
  simp only [next] at taken
  split at taken
  · cases taken
  · next living =>
    cases taken
    exact sound.dies living

/-! ### Steps of the parent -/

/-- A `poll` that answers yes sees something. -/
theorem readable_of_poll {answer : Bool} (polled : state.poll answer = true) : state.Readable := by
  unfold poll at polled
  split at polled
  · next pipe => exact Or.inl (by simp [pipe])
  · next pipe => exact Or.inl (by simp [pipe])
  · exact Or.inr (Bool.and_eq_true_iff.mp polled).1

/-- A `poll` that answers no sees no message. -/
theorem unsent_of_poll {readable : Bool} (watching : state.Watching)
    (polled : state.poll readable = false) : state.sent = false := by
  cases sent : state.sent with
  | false => rfl
  | true =>
    obtain ⟨payload, pipe⟩ := watching sent
    simp [poll, pipe] at polled

/-- `EOFError` and `OSError`, as `recv` raises them, are retried. -/
theorem retryable_of_stream (ascii : LowersAscii lower) {name : Str}
    (stream : name = lit "EOFError" ∨ name = lit "OSError") :
    isRetryableFailure lower (.builtin [.other name]) = true := by
  have plain : ∀ errorType ∈ [.other name, .exception, .other (lit "BaseException"),
      .other (lit "object")], errorType ∉ localClasses ∧
        errorType.name.all (fun c => c.val < 128) = true ∧
        errorType.name.map asciiLower ∉ nonretryableExceptionNames := by
    rcases stream with rfl | rfl <;> decide
  refine (isRetryableFailure_plain_iff lower _).mpr
    ⟨fun errorType member => (plain errorType member).1, fun errorType member => ?_⟩
  obtain ⟨-, letters, unlisted⟩ := plain errorType member
  rw [ascii errorType.name (fun c there => of_decide_eq_true (List.all_eq_true.mp letters c there))]
  exact unlisted

/-- What `recv` gives or raises. -/
theorem explained_of_received (ascii : LowersAscii lower) (sound : state.Sound lower)
    (watching : state.Watching) {outcome : Except Raised RLMSubprocessResult}
    (received : state.received = some outcome) : state.Explained lower outcome := by
  unfold Supervision.received at received
  split at received
  · next payload pipe =>
    obtain ⟨sent, computed, found, rfl⟩ := sound.message payload pipe
    cases received
    exact Or.inr (Or.inl ⟨sent, computed, found, reports_decoded lower computed⟩)
  · next pipe =>
    split at received
    · next closed =>
      cases received
      obtain ⟨unsent, dead | ⟨payload, phase⟩⟩ := sound.begun pipe
      · exact Or.inr (Or.inr ⟨dead, unsent, _, rfl, retryable_of_stream ascii (Or.inr rfl)⟩)
      · simp [Supervision.closed, phase] at closed
    · cases received
  · next pipe =>
    have unsent : state.sent = false := by
      cases sent : state.sent with
      | false => rfl
      | true =>
        obtain ⟨payload, other⟩ := watching sent
        cases pipe.symm.trans other
    split at received
    · next closed =>
      cases received
      refine Or.inr (Or.inr ⟨?_, unsent, _, rfl, retryable_of_stream ascii (Or.inl rfl)⟩)
      unfold Supervision.closed at closed
      split at closed
      · next phase => cases unsent.symm.trans (sound.closing phase)
      · next phase => exact (dead_iff state).mpr phase
      · cases closed
    · cases received

/-- A cancelled cleanup has asked the child to end. -/
theorem Sound.cut (sound : state.Sound lower) {outcome : Except Raised RLMSubprocessResult}
    (cleaning : state.Cleaning lower outcome)
    (ended : state.dead = true ∨ state.terminated = true) : state.cut.Sound lower :=
  { sound with
    stage := ⟨⟨Or.inl ⟨rfl, rfl⟩, cleaning.receiver⟩, ended, fun whole => by cases whole⟩ }

/-- A child that is not alive has died. -/
theorem dead_of_asked (answered : ¬state.asked.1 = true) : state.dead = true := by
  simpa only [asked, Bool.not_eq_true', Bool.not_eq_false] using answered

/-- A child that is alive has not been reaped. -/
theorem Sound.unreaped (sound : state.Sound lower) (answered : state.asked.1 = true) :
    state.asked.2.reaped = false := by
  have live : state.dead = false := by simpa only [asked, Bool.not_eq_true'] using answered
  have open_ : state.reaped = false :=
    Bool.eq_false_iff.mpr (fun reaped => by cases live.symm.trans (sound.reaped reaped))
  simp only [asked, live, open_, Bool.or_false]

section Points

variable {outcome : Except Raised RLMSubprocessResult}

theorem Sound.proceed_polling (sound : state.Sound lower) (at_ : state.point = .polling)
    (answer : Bool) :
    Sound lower { state with
      point := if state.poll answer then .receiving else .checking } := by
  have stage := sound.stage
  rw [at_] at stage
  cases polled : state.poll answer with
  | true => exact { sound with stage := ⟨stage, readable_of_poll polled⟩ }
  | false => exact { sound with stage := stage }

/-- `is_alive` reaps only a child that has died. -/
theorem Sound.reaps (sound : state.Sound lower) (reaped : state.asked.2.reaped = true) :
    state.dead = true :=
  (Bool.or_eq_true_iff.mp reaped).elim sound.reaped id

theorem Sound.proceed_checking (sound : state.Sound lower) (at_ : state.point = .checking) :
    Sound lower { state.asked.2 with
      point := if state.asked.1 then .sleeping else .pollingAgain } := by
  have stage := sound.stage
  rw [at_] at stage
  split
  · exact { sound with reaped := sound.reaps, stage := stage }
  · next answered =>
    exact { sound with reaped := sound.reaps, stage := ⟨stage, dead_of_asked answered⟩ }

theorem Sound.proceed_pollingAgain (sound : state.Sound lower)
    (at_ : state.point = .pollingAgain) (answer : Bool) :
    Sound lower { state with
      point := if state.poll answer then .receiving
        else .closing (.error (.remote ⟨lit "ChildProcessExit", true⟩)) } := by
  have stage := sound.stage
  rw [at_] at stage
  obtain ⟨watching, dead⟩ := stage
  cases polled : state.poll answer with
  | true => exact { sound with stage := ⟨watching, readable_of_poll polled⟩ }
  | false =>
    exact { sound with
      stage := Or.inr (Or.inr ⟨dead, unsent_of_poll watching polled, _, rfl, rfl⟩) }

theorem Sound.proceed_receiving (ascii : LowersAscii lower) (sound : state.Sound lower)
    (at_ : state.point = .receiving) (received : state.received = some outcome) :
    Sound lower { state with point := .closing outcome, pipe := .empty } := by
  have stage := sound.stage
  rw [at_] at stage
  exact { sound with
    message := fun _ other => by cases other
    begun := fun other => by cases other
    stage := explained_of_received ascii sound stage.1 received }

theorem Sound.proceed_closing (sound : state.Sound lower) (at_ : state.point = .closing outcome) :
    Sound lower { state with point := .asking outcome, receiverOpen := false } := by
  have stage := sound.stage
  rw [at_] at stage
  exact { sound with stage := ⟨stage, rfl⟩ }

theorem Sound.proceed_asking (sound : state.Sound lower) (at_ : state.point = .asking outcome) :
    Sound lower { state.asked.2 with
      point := if state.asked.1 then .terminating outcome else .joining outcome } := by
  have stage := sound.stage
  rw [at_] at stage
  split
  · next answered =>
    exact { sound with
      reaped := sound.reaps
      stage := ⟨⟨stage.explained, stage.receiver⟩, sound.unreaped answered⟩ }
  · next answered =>
    exact { sound with
      reaped := sound.reaps
      stage := ⟨⟨stage.explained, stage.receiver⟩, Or.inl (dead_of_asked answered)⟩ }

theorem Sound.proceed_terminating (sound : state.Sound lower)
    (at_ : state.point = .terminating outcome) :
    Sound lower { state.signalTree .sigterm with point := .joining outcome } := by
  have stage := sound.stage
  rw [at_] at stage
  obtain ⟨cleaning, unreaped⟩ := stage
  exact { sound with
    strayed := by rw [signalTree, sound.strayed, unreaped]; rfl
    stage := ⟨⟨cleaning.explained, cleaning.receiver⟩, Or.inr rfl⟩ }

theorem Sound.proceed_joining (sound : state.Sound lower) (at_ : state.point = .joining outcome) :
    state.cut.Sound lower ∧ Sound lower { state.asked.2 with point := .askingAgain outcome } := by
  have stage := sound.stage
  rw [at_] at stage
  obtain ⟨cleaning, ended⟩ := stage
  refine ⟨sound.cut cleaning ended, ?_⟩
  exact { sound with
    reaped := sound.reaps
    stage := ⟨⟨cleaning.explained, cleaning.receiver⟩, ended⟩ }

theorem Sound.proceed_askingAgain (sound : state.Sound lower)
    (at_ : state.point = .askingAgain outcome) :
    Sound lower { state.asked.2 with
      point := if state.asked.1 then .killing outcome else .ended outcome } := by
  have stage := sound.stage
  rw [at_] at stage
  obtain ⟨cleaning, ended⟩ := stage
  split
  · next answered =>
    have terminated : state.terminated = true := by
      refine ended.resolve_left (fun dead => ?_)
      simp [asked, dead] at answered
    exact { sound with
      reaped := sound.reaps
      stage := ⟨⟨cleaning.explained, cleaning.receiver⟩, terminated, sound.unreaped answered⟩ }
  · next answered =>
    exact { sound with
      reaped := sound.reaps
      stage := ⟨⟨cleaning.explained, cleaning.receiver⟩, ended,
        fun _ => Or.inl (dead_of_asked answered)⟩ }

theorem Sound.proceed_killing (sound : state.Sound lower) (at_ : state.point = .killing outcome) :
    Sound lower { state.signalTree .sigkill with point := .joiningAgain outcome } := by
  have stage := sound.stage
  rw [at_] at stage
  obtain ⟨cleaning, terminated, unreaped⟩ := stage
  exact { sound with
    strayed := by rw [signalTree, sound.strayed, unreaped]; rfl
    group := fun _ leads => by rw [signalTree]; exact if_pos leads
    stage := ⟨⟨cleaning.explained, cleaning.receiver⟩, terminated, rfl⟩ }

theorem Sound.proceed_joiningAgain (sound : state.Sound lower)
    (at_ : state.point = .joiningAgain outcome) :
    state.cut.Sound lower ∧ Sound lower { state.asked.2 with point := .ended outcome } := by
  have stage := sound.stage
  rw [at_] at stage
  obtain ⟨cleaning, terminated, killed⟩ := stage
  refine ⟨sound.cut cleaning (Or.inr terminated), ?_⟩
  exact { sound with
    reaped := sound.reaps
    stage := ⟨⟨cleaning.explained, cleaning.receiver⟩, Or.inr terminated,
      fun _ => Or.inr killed⟩ }

end Points

/-- A step of the parent keeps the invariant. -/
theorem Sound.proceed (ascii : LowersAscii lower) (sound : state.Sound lower) {readable : Bool}
    (taken : state.proceed readable = some state') : state'.Sound lower := by
  unfold Supervision.proceed at taken
  split at taken
  · next at_ =>
    cases taken
    exact sound.proceed_polling at_ readable
  · next at_ =>
    cases taken
    exact sound.proceed_checking at_
  · next at_ =>
    cases taken
    exact sound.proceed_pollingAgain at_ readable
  · next at_ =>
    obtain ⟨outcome, received, rfl⟩ := Option.map_eq_some_iff.mp taken
    exact sound.proceed_receiving ascii at_ received
  · next at_ =>
    have stage := sound.stage
    rw [at_] at stage
    split at taken
    · cases taken
      exact { sound with stage := Or.inl ⟨rfl, rfl⟩ }
    · cases taken
      exact { sound with stage := stage }
  · next outcome at_ =>
    cases taken
    exact sound.proceed_closing at_
  · next outcome at_ =>
    cases taken
    exact sound.proceed_asking at_
  · next outcome at_ =>
    cases taken
    exact sound.proceed_terminating at_
  · next outcome at_ =>
    obtain ⟨interrupted, joined⟩ := sound.proceed_joining at_
    split at taken
    · cases taken
      exact interrupted
    · cases taken
      exact joined
  · next outcome at_ =>
    cases taken
    exact sound.proceed_askingAgain at_
  · next outcome at_ =>
    cases taken
    exact sound.proceed_killing at_
  · next outcome at_ =>
    obtain ⟨interrupted, joined⟩ := sound.proceed_joiningAgain at_
    split at taken
    · cases taken
      exact interrupted
    · cases taken
      exact joined
  · cases taken

/-- Every step keeps the invariant. -/
theorem Sound.step (ascii : LowersAscii lower) (sound : state.Sound lower)
    (step : Step lower state state') : state'.Sound lower := by
  obtain ⟨act, taken⟩ := step
  unfold next at taken
  split at taken
  · exact sound.proceed ascii taken
  · split at taken
    · cases taken
      exact { sound with stage := sound.stage.later ⟨rfl, rfl, rfl, rfl, rfl, rfl, rfl,
        fun dead => ⟨dead, rfl⟩, fun sent => ⟨sent, rfl⟩, id, id⟩ }
    · cases taken
  · cases taken
    exact { sound with
      group := fun killed leads => by rw [sound.group killed leads]
      stage := sound.stage.later ⟨rfl, rfl, rfl, rfl, rfl, rfl, rfl,
        fun dead => ⟨dead, rfl⟩, fun sent => ⟨sent, rfl⟩, id, id⟩ }
  · exact sound.die taken
  · split at taken
    · cases taken
    · next running => exact sound.childStep (Bool.eq_false_iff.mpr running) taken

theorem sound_of_reachable (ascii : LowersAscii lower) (reachable : Reachable lower state) :
    state.Sound lower :=
  Runs.keeps reachable (fun _ _ sound taken => sound.step ascii taken) (sound_initial lower)

/-- Whatever the child computes and however it ends, the call returns or raises what the
child reported. A child without a report is a failure that is retried. -/
theorem report_delivered (ascii : LowersAscii lower) (reachable : Reachable lower state)
    {outcome : Except Raised RLMSubprocessResult} (ended : state.point = .ended outcome) :
    (outcome = .error .cancelled ∧ state.cancelled = true) ∨
    (state.sent = true ∧ ∃ computed, state.computed = some computed ∧
      Reports lower computed outcome) ∨
    (state.dead = true ∧ state.sent = false ∧
      ∃ error, outcome = .error error ∧ isRetryableFailure lower error = true) := by
  have stage := (sound_of_reachable ascii reachable).stage
  rw [ended] at stage
  exact stage.1.explained

/-- No child is left behind. A signal is never sent to a process that was reaped; when
the call ends the pipe is closed and the child has died or was asked to; and unless the
cleanup was cancelled it has died or was killed, with the whole group that it leads. -/
theorem no_child_left (ascii : LowersAscii lower) (reachable : Reachable lower state) :
    state.strayed = false ∧ ∀ outcome, state.point = .ended outcome →
      state.receiverOpen = false ∧ (state.dead = true ∨ state.terminated = true) ∧
      (state.cutShort = false → state.dead = true ∨
        state.killed = true ∧ (state.leads = true → state.helpers = 0)) := by
  have sound := sound_of_reachable ascii reachable
  refine ⟨sound.strayed, fun outcome ended => ?_⟩
  have stage := sound.stage
  rw [ended] at stage
  obtain ⟨cleaning, asked, whole⟩ := stage
  exact ⟨cleaning.receiver, asked, fun uncut => (whole uncut).imp id
    (fun killed => ⟨killed, sound.group killed⟩)⟩

/-! ### The end of the call -/

/-- The steps of the parent that are left, once it has an outcome. -/
def remaining : SupervisorPoint → Nat
  | .polling | .checking | .pollingAgain | .receiving | .sleeping => 8
  | .closing _ => 7
  | .asking _ => 6
  | .terminating _ => 5
  | .joining _ => 4
  | .askingAgain _ => 3
  | .killing _ => 2
  | .joiningAgain _ => 1
  | .ended _ => 0

def ofParent : SupervisionAct → Bool
  | .proceed _ => true
  | _ => false

/-- The parent is where it was, and has killed nobody. -/
def Unmoved (state state' : Supervision) : Prop :=
  state'.point = state.point ∧ state'.killed = state.killed

theorem unmoved_sendStep {written : Supervision} (same : Unmoved state written) :
    Unmoved state (state.sendStep written) := by
  unfold Supervision.sendStep
  split
  · exact same
  · exact ⟨rfl, rfl⟩

/-- A step of anyone else leaves the parent where it is. -/
theorem unmoved_childStep {act : SupervisionAct} (taken : state.childStep lower act = some state') :
    Unmoved state state' := by
  unfold Supervision.childStep at taken
  split at taken
  · cases taken; exact ⟨rfl, rfl⟩
  · cases taken; exact ⟨rfl, rfl⟩
  · cases taken; exact ⟨rfl, rfl⟩
  · cases taken; exact unmoved_sendStep ⟨rfl, rfl⟩
  · cases taken; exact unmoved_sendStep ⟨rfl, rfl⟩
  · cases taken; exact unmoved_sendStep ⟨rfl, rfl⟩
  · cases taken; exact ⟨rfl, rfl⟩
  · cases taken

theorem unmoved_next {act : SupervisionAct} (taken : next lower act state = some state')
    (other : ofParent act = false) : Unmoved state state' := by
  unfold next at taken
  split at taken
  · cases other
  · split at taken
    · cases taken; exact ⟨rfl, rfl⟩
    · cases taken
  · cases taken; exact ⟨rfl, rfl⟩
  · split at taken
    · cases taken
    · cases taken; exact ⟨rfl, rfl⟩
  · split at taken
    · cases taken
    · exact unmoved_childStep taken

/-- A step of the parent is its next one. -/
theorem proceed_of_parent {act : SupervisionAct} (taken : next lower act state = some state')
    (parent : ofParent act = true) : ∃ readable, state.proceed readable = some state' := by
  cases act <;> cases parent
  exact ⟨_, taken⟩

/-- In its cleanup every step of the parent is one less. -/
theorem remaining_proceed {readable : Bool} (taken : state.proceed readable = some state')
    (cleanup : remaining state.point ≤ 7) : remaining state'.point < remaining state.point := by
  unfold Supervision.proceed at taken
  cases at_ : state.point with
  | polling | checking | pollingAgain | receiving | sleeping =>
    simp [at_, remaining] at cleanup
  | closing outcome | terminating outcome | killing outcome =>
    rw [at_] at taken
    cases taken
    simp [remaining]
  | asking outcome | askingAgain outcome =>
    rw [at_] at taken
    cases taken
    dsimp only
    split <;> simp [remaining]
  | joining outcome | joiningAgain outcome =>
    rw [at_] at taken
    dsimp only at taken
    split at taken <;> cases taken <;> simp [remaining, cut]
  | ended outcome =>
    rw [at_] at taken
    cases taken

theorem remaining_replay {acts : List SupervisionAct}
    (replayed : replay (next lower) acts state = some state')
    (cleanup : remaining state.point ≤ 7) :
    remaining state'.point + acts.countP ofParent ≤ remaining state.point := by
  induction acts generalizing state with
  | nil =>
    cases replayed
    simp
  | cons act rest inductionHypothesis =>
    obtain ⟨middle, taken, later⟩ := Option.bind_eq_some_iff.mp replayed
    cases parent : ofParent act with
    | false =>
      have same := (unmoved_next taken parent).1
      rw [← same] at cleanup ⊢
      rw [List.countP_cons_of_neg (by simp [parent])]
      exact inductionHypothesis later cleanup
    | true =>
      obtain ⟨readable, proceeded⟩ := proceed_of_parent taken parent
      have fewer := remaining_proceed proceeded cleanup
      have rest := inductionHypothesis later (by omega)
      rw [List.countP_cons_of_pos parent]
      omega

/-- The parent waits for the rest of a message only while the child is in the middle of
it. -/
theorem waiting_of_received (sound : state.Sound lower) (at_ : state.point = .receiving)
    (waits : state.received = none) : state.Waiting := by
  have stage := sound.stage
  rw [at_] at stage
  obtain ⟨-, readable⟩ := stage
  unfold Supervision.received at waits
  split at waits
  · cases waits
  · next pipe =>
    split at waits
    · cases waits
    · next open_ =>
      obtain ⟨-, dead | writing⟩ := sound.begun pipe
      · exact absurd (by simp [Supervision.closed, (dead_iff state).mp dead]) open_
      · exact ⟨at_, pipe, writing⟩
  · next pipe =>
    split at waits
    · cases waits
    · next open_ => exact (readable.elim (fun other => other pipe) open_).elim

/-- Until the call has ended the parent has a next step, unless it waits. -/
theorem proceeds_or_waits (sound : state.Sound lower) :
    (∃ outcome, state.point = .ended outcome) ∨
      (∀ readable, (state.proceed readable).isSome = true) ∨ state.Waiting := by
  cases at_ : state.point with
  | ended outcome => exact Or.inl ⟨outcome, rfl⟩
  | receiving =>
    cases received : state.received with
    | none => exact Or.inr (Or.inr (waiting_of_received sound at_ received))
    | some outcome =>
      exact Or.inr (Or.inl (fun readable => by simp [Supervision.proceed, at_, received]))
  | sleeping | joining _ | joiningAgain _ =>
    refine Or.inr (Or.inl (fun readable => ?_))
    simp only [Supervision.proceed, at_]
    split <;> rfl
  | _ => exact Or.inr (Or.inl (fun readable => by simp [Supervision.proceed, at_]))

/-- At the end of a message or of the stream the parent goes on. -/
theorem proceeds_of_received (at_ : state.point = .receiving)
    (arrived : ∃ outcome, state.received = some outcome) (readable : Bool) :
    (state.proceed readable).isSome = true := by
  obtain ⟨outcome, received⟩ := arrived
  simp [Supervision.proceed, at_, received]

/-- A wait ends with the rest of the message or with the child, and with nothing else. -/
theorem waiting_next (waiting : state.Waiting) {act : SupervisionAct}
    (taken : next lower act state = some state') :
    state'.Waiting ∨ (act = .send ∨ act = .die) ∧
      ∀ readable, (state'.proceed readable).isSome = true := by
  obtain ⟨at_, pipe, payload, phase⟩ := waiting
  have open_ : state.closed = false := by simp [Supervision.closed, phase]
  cases act with
  | proceed readable =>
    have waits : state.received = none := by simp [Supervision.received, pipe, open_]
    simp [next, Supervision.proceed, at_, waits] at taken
  | cancel => simp [next, suspended, at_] at taken
  | setsid | compute | startHelper | begin | exit =>
    simp [next, Supervision.childStep, phase] at taken
  | endHelper =>
    cases taken
    exact Or.inl ⟨at_, pipe, payload, phase⟩
  | send =>
    refine Or.inr ⟨Or.inl rfl, ?_⟩
    simp only [next, Supervision.childStep, phase] at taken
    split at taken
    · cases taken
    · cases taken
      unfold Supervision.sendStep
      split
      · exact proceeds_of_received at_ ⟨reportOf payload, rfl⟩
      · exact proceeds_of_received at_ ⟨_, by rw [Supervision.received, pipe]; rfl⟩
  | die =>
    refine Or.inr ⟨Or.inr rfl, ?_⟩
    simp only [next] at taken
    split at taken
    · cases taken
    · cases taken
      exact proceeds_of_received at_ ⟨_, by rw [Supervision.received, pipe]; rfl⟩

/-- A child that was killed is only waited for. -/
def Late (state : Supervision) : Prop := state.killed = true → remaining state.point ≤ 1

theorem Late.proceed (late : state.Late) {readable : Bool}
    (taken : state.proceed readable = some state') : state'.Late := by
  by_cases killed : state.killed = true
  · have few := late killed
    have fewer := remaining_proceed taken (by omega)
    intro _
    omega
  · unfold Supervision.proceed at taken
    cases at_ : state.point with
    | killing outcome =>
      rw [at_] at taken
      cases taken
      intro _
      simp [remaining]
    | polling | checking | pollingAgain | closing _ | asking _ | terminating _ | askingAgain _ =>
      rw [at_] at taken
      cases taken
      exact fun other => (killed other).elim
    | receiving =>
      rw [at_] at taken
      obtain ⟨outcome, -, rfl⟩ := Option.map_eq_some_iff.mp taken
      exact fun other => (killed other).elim
    | sleeping | joining _ | joiningAgain _ =>
      rw [at_] at taken
      dsimp only at taken
      split at taken <;> cases taken <;> exact fun other => (killed other).elim
    | ended _ =>
      rw [at_] at taken
      cases taken

theorem Late.step (late : state.Late) (step : Step lower state state') : state'.Late := by
  obtain ⟨act, taken⟩ := step
  cases parent : ofParent act with
  | true =>
    obtain ⟨readable, proceeded⟩ := proceed_of_parent taken parent
    exact late.proceed proceeded
  | false =>
    obtain ⟨point, killed⟩ := unmoved_next taken parent
    rw [Late, point, killed]
    exact late

theorem late_of_reachable (reachable : Reachable lower state) : state.Late :=
  Runs.keeps reachable (fun _ _ late step => late.step step) (fun killed => by cases killed)

/-- The parent is stuck only in `recv`, while the child is in the middle of a message. It
cannot be cancelled there, and goes on as soon as the child has written the rest or has
died, which it can. Once the parent has an outcome at most seven of its steps are left, in
every run and whatever the child does. -/
theorem supervisor_ends (ascii : LowersAscii lower) (reachable : Reachable lower state) :
    ((∃ outcome, state.point = .ended outcome) ∨
      (∀ readable, (state.proceed readable).isSome = true) ∨ state.Waiting) ∧
    (state.Waiting → next lower .cancel state = none ∧
      (∀ act ∈ [.send, .die], (next lower act state).isSome = true) ∧
      ∀ act state', next lower act state = some state' →
        state'.Waiting ∨ (act = .send ∨ act = .die) ∧
          ∀ readable, (state'.proceed readable).isSome = true) ∧
    (remaining state.point ≤ 7 → ∀ acts state', replay (next lower) acts state = some state' →
      acts.countP ofParent ≤ 7) := by
  refine ⟨proceeds_or_waits (sound_of_reachable ascii reachable), fun waiting => ⟨?_, ?_,
    fun act state' taken => waiting_next waiting taken⟩, fun cleanup acts state' replayed => ?_⟩
  · simp [next, suspended, waiting.1]
  · obtain ⟨at_, -, payload, phase⟩ := waiting
    have running : state.killed = false := by
      refine Bool.eq_false_iff.mpr (fun killed => ?_)
      have late := late_of_reachable reachable killed
      rw [at_, remaining] at late
      omega
    simp [next, Supervision.childStep, dead, phase, running]
  · have counted := remaining_replay replayed cleanup
    omega

end Steps

/-! ### Two runs -/

/-- `str.lower` on ASCII strings. -/
def lowerAscii : Str → Str := List.map asciiLower

theorem lowersAscii_lowerAscii : LowersAscii lowerAscii := fun _ _ => rfl

/-- The child answers, and exits when it is asked to. -/
def answering : List SupervisionAct :=
  [.setsid true, .compute (.ok ⟨.str (lit "42"), .list [], .none⟩), .send, .proceed false,
    .proceed false, .proceed false, .proceed false, .proceed false, .exit, .proceed false,
    .proceed false]

theorem report_delivered_answering : ∃ state outcome,
    replay (next lowerAscii) answering initial = some state ∧ state.point = .ended outcome ∧
    ((outcome = .error .cancelled ∧ state.cancelled = true) ∨
    (state.sent = true ∧ ∃ computed, state.computed = some computed ∧
      Reports lowerAscii computed outcome) ∨
    (state.dead = true ∧ state.sent = false ∧
      ∃ error, outcome = .error error ∧ isRetryableFailure lowerAscii error = true)) := by
  have run : ∃ state outcome, replay (next lowerAscii) answering initial = some state ∧
      state.point = .ended outcome := ⟨_, _, rfl, rfl⟩
  obtain ⟨state, outcome, replayed, ended⟩ := run
  exact ⟨state, outcome, replayed, ended, report_delivered lowersAscii_lowerAscii
    (runs_of_replay (fun act _ _ taken => ⟨act, taken⟩) replayed) ended⟩

/-- The call is cancelled while the child waits for a helper. Neither ends when it is
asked to, and both are killed. -/
def stubborn : List SupervisionAct :=
  [.setsid true, .startHelper, .proceed false, .proceed false, .cancel, .proceed false,
    .proceed false, .proceed false, .proceed false, .proceed false, .proceed false,
    .proceed false, .die, .proceed false]

theorem no_child_left_stubborn : ∃ state,
    replay (next lowerAscii) stubborn initial = some state ∧
    state.killed = true ∧ state.helpers = 0 ∧ state.strayed = false ∧
    ∀ outcome, state.point = .ended outcome →
      state.receiverOpen = false ∧ (state.dead = true ∨ state.terminated = true) ∧
      (state.cutShort = false → state.dead = true ∨
        state.killed = true ∧ (state.leads = true → state.helpers = 0)) := by
  have run : ∃ state, replay (next lowerAscii) stubborn initial = some state ∧
      state.killed = true ∧ state.helpers = 0 := ⟨_, rfl, rfl, rfl⟩
  obtain ⟨state, replayed, killed, none⟩ := run
  exact ⟨state, replayed, killed, none, no_child_left lowersAscii_lowerAscii
    (runs_of_replay (fun act _ _ taken => ⟨act, taken⟩) replayed)⟩

/-- The child begins a message and stalls. -/
def stalled : List SupervisionAct :=
  [.setsid true, .compute (.ok ⟨.str (lit "42"), .list [], .none⟩), .begin, .proceed false]

theorem supervisor_ends_stalled : ∃ state,
    replay (next lowerAscii) stalled initial = some state ∧ state.Waiting ∧
    ((∃ outcome, state.point = .ended outcome) ∨
      (∀ readable, (state.proceed readable).isSome = true) ∨ state.Waiting) ∧
    (state.Waiting → next lowerAscii .cancel state = none ∧
      (∀ act ∈ [.send, .die], (next lowerAscii act state).isSome = true) ∧
      ∀ act state', next lowerAscii act state = some state' →
        state'.Waiting ∨ (act = .send ∨ act = .die) ∧
          ∀ readable, (state'.proceed readable).isSome = true) ∧
    (remaining state.point ≤ 7 → ∀ acts state',
      replay (next lowerAscii) acts state = some state' → acts.countP ofParent ≤ 7) := by
  have run : ∃ state, replay (next lowerAscii) stalled initial = some state ∧ state.Waiting :=
    ⟨_, rfl, rfl, rfl, _, rfl⟩
  obtain ⟨state, replayed, waiting⟩ := run
  exact ⟨state, replayed, waiting, supervisor_ends lowersAscii_lowerAscii
    (runs_of_replay (fun act _ _ taken => ⟨act, taken⟩) replayed)⟩

end Supervision

end RlmApi
