import RlmApi.ExactlyOnce
import RlmApi.FleetProcesses
import RlmApi.LeaseFencing

/-!
# The fleet refines the delivery protocol

`Delivery` lets every worker take any step of its phase and any caller make any call of
the queue. The fleet runs the worker's own code. Every step of the fleet is matched by
steps of the protocol, in which workers speak only of the claim they received last: what
a process knows, from the calls that its coroutine has made and their ends, is what the
protocol's phase and the queue's record say about it. So what holds in every run of the
protocol holds in every run of the fleet.
-/

namespace RlmApi

open Coroutine Worker RunStore

/-! ## The protocol with disciplined workers -/

/-- The discipline of the queue; other steps are free. -/
def DeliveryAct.Disciplined (state : Delivery) : DeliveryAct → Prop
  | .call _ _ operation => QueueState.Disciplined state.queue operation
  | _ => True

/-- One disciplined step. -/
def Delivery.DisciplinedStep (embedding : Str → Str × Int) (state state' : Delivery) : Prop :=
  ∃ act : DeliveryAct, act.Disciplined state ∧ Delivery.next embedding act state = some state'

/-- The embedding configurations of the workers. -/
def embeddings (settings : Str → Settings) (workerId : Str) : Str × Int :=
  ((settings workerId).embeddingModel, (settings workerId).embeddingDim)

/-- The state of the protocol that a state of the fleet stands for. -/
structure Fleet.Refines (settings : Str → Settings) (fleet : Fleet) (state : Delivery) :
    Prop where
  sound : state.Sound
  queue : state.queue = fleet.queue
  memory : state.memory = fleet.memory
  metadata : ∀ id row fields, fleet.outbox.find? id = some row → row.metadata = .obj fields →
    NormalFields fields
  processes : ∀ workerId, ∃ recorded,
    (fleet.processes workerId).Follows workerId (embeddings settings workerId)
      (fleet.queue.latest workerId) recorded ∧
    state.phases workerId = (fleet.processes workerId).phase recorded

/-! ## The claim received last -/

namespace QueueState

/-- The claim received last was received by the worker. -/
theorem workerId_of_latest {state : QueueState} {workerId : Str} {run : ClaimedRun}
    (latest : state.latest workerId = some run) : run.workerId = workerId ∧ run ∈ state.handed := by
  obtain ⟨handed, own⟩ := List.mem_filter.mp (List.mem_of_getLast? latest)
  exact ⟨of_decide_eq_true own, handed⟩

/-- A call hands out a claim, to the worker that asked for it, or none. -/
theorem latest_after (state : QueueState) (now : Timestamp) (operation : Operation)
    (answer : Answer) (db : Database) (workerId : Str) :
    (state.after now operation answer db).latest workerId =
      (answer.handed.find? (fun run => decide (run.workerId = workerId))).or
        (state.latest workerId) := by
  have one : answer.handed = [] ∨ ∃ run, answer.handed = [run] := by
    unfold Answer.handed
    split
    · exact Or.inr ⟨_, rfl⟩
    all_goals exact Or.inl rfl
  simp only [latest, after, List.filter_append]
  rcases one with none | ⟨run, some_⟩
  · simp [none]
  · by_cases own : run.workerId = workerId
    · simp [some_, own]
    · simp [some_, own]

end QueueState

/-- Only a claim hands anything out, and it does so to the worker that asked. -/
theorem Performed.handedTo {now : Timestamp} {operation : Operation} {answer : Answer}
    {db db' : Database} (performed : Performed now operation answer db db') :
    answer.handed = [] ∨ ∃ run maxQuarantined, answer = .claimed (some run) ∧
      operation = .claim run.workerId maxQuarantined := by
  cases ended : answer.handed with
  | nil => exact Or.inl rfl
  | cons run rest =>
    obtain ⟨action, acts, -⟩ := performed.acted run.id
    unfold Answer.handed at ended
    split at ended
    · next handed =>
      cases ended
      refine Or.inr ⟨run, ?_⟩
      cases operation with
      | claim workerId maxQuarantined =>
        obtain ⟨rfl, -⟩ := acts
        exact ⟨_, rfl, rfl⟩
      | enqueue | heartbeat | succeed | fail | recoverStale | report => exact False.elim acts
    all_goals cases ended

/-- The row that a delivery inserts is the memory of its item. -/
theorem toMemoryItem_insertion {backend : MemoryBackend} {embeddingDim : Int} {drawnId : Str}
    {item : SummaryOutboxItem} {row : MemoryRow} (normal : NormalFields item.metadata)
    (inserted : MemoryStore.insertion backend embeddingDim drawnId (summaryMemory item) =
      .ok row) : row.toMemoryItem = item.memory drawnId := by
  simp only [MemoryStore.insertion, except_bind_ok_iff] at inserted
  obtain ⟨embedding, -, expiresAt, expires, importance, -, inserted⟩ := inserted
  obtain rfl : none = expiresAt := Except.ok.inj expires
  split at inserted
  · cases inserted
    exact proposed_summaryMemory normal drawnId embedding importance
  · cases inserted

/-! ## Steps of the protocol -/

namespace Delivery

variable {embedding : Str → Str × Int} {state state' : Delivery}

theorem DisciplinedStep.step (taken : DisciplinedStep embedding state state') :
    Step embedding state state' := by
  obtain ⟨act, -, taken⟩ := taken
  exact ⟨act, taken⟩

/-- A step of a worker needs no discipline. -/
theorem disciplined_of_next (act : DeliveryAct) (free : act.Disciplined state)
    (taken : next embedding act state = some state') :
    Runs (DisciplinedStep embedding) state state' :=
  .single ⟨act, free, taken⟩

/-- Entering the phase that the worker is in changes nothing. -/
theorem enter_same {workerId : Str} {phase : DeliveryPhase}
    (same : state.phases workerId = phase) : state.enter workerId phase = state := by
  rw [enter, ← same, Function.update_eq_self]

/-- The end of a call moves the phase of its worker. -/
theorem settles {workerId : Str} {record : PollRecord} {progress : CallProgress}
    {request : WorkerCall} {outcome : Except Raised request.Answer}
    (phase : state.phases workerId = progress.phase record.phase request)
    (required : record.Requires workerId (embedding workerId) request)
    (explained : progress.Explains request outcome) :
    Runs (DisciplinedStep embedding) state
      (state.enter workerId (record.phase.afterCall request outcome)) := by
  have abandoned : Runs (DisciplinedStep embedding) state (state.enter workerId .idle) :=
    disciplined_of_next (.abandon workerId) trivial rfl
  have stays : record.phase.afterCall request outcome = progress.phase record.phase request →
      Runs (DisciplinedStep embedding) state
        (state.enter workerId (record.phase.afterCall request outcome)) := by
    intro same
    rw [enter_same (phase.trans same.symm)]
  cases request with
  | claimSummary owner staleSeconds =>
    cases outcome with
    | error error => exact abandoned
    | ok claimed =>
      cases claimed with
      | none => exact abandoned
      | some item =>
        rw [CallProgress.reply?_claimSummary (explained _ rfl rfl)] at stays
        exact stays rfl
  | writeMemory arguments =>
    obtain ⟨item, claimed, matching, -⟩ := required
    cases progress with
    | answered reply =>
      cases outcome with
      | ok id => exact stays rfl
      | error error =>
        -- The memory is there, but the worker does not know.
        have written : state.phases workerId = .written item :=
          phase.trans (DeliveryPhase.afterWrite_claimed claimed true)
        rw [DeliveryPhase.afterCall, DeliveryPhase.afterWrite_claimed claimed]
        exact disciplined_of_next (.completeRaises workerId) trivial
          (by simp only [next, written, Except.isOk, Except.toBool, Bool.false_eq_true, ↓reduceIte])
    | asked rounds | poisoned runId rounds =>
      cases outcome with
      | ok id => cases explained id rfl rfl
      | error error =>
        have waits : state.phases workerId = .claimed item := phase.trans claimed
        rw [DeliveryPhase.afterCall, DeliveryPhase.afterWrite_claimed claimed]
        exact disciplined_of_next (.writeRaises workerId) trivial
          (by simp only [next, waits, matching, Except.isOk, Except.toBool, Bool.false_eq_true,
            ↓reduceIte])
  | completeSummary item =>
    cases outcome with
    | ok owned => exact abandoned
    | error error =>
      cases progress with
      | answered reply => exact stays rfl
      | asked rounds | poisoned runId rounds =>
        have written : state.phases workerId = .written item := phase.trans required
        exact disciplined_of_next (.completeRaises workerId) trivial
          (by simp only [next, written]; rfl)
  | retrySummary => exact abandoned
  | _ => exact stays rfl

end Delivery

/-! ## Steps of the fleet -/

/-- The call waits for the database. -/
def CallProgress.isAsked : CallProgress → Bool
  | .asked _ => true
  | .poisoned _ _ | .answered _ => false

namespace WorkerCall

/-- The call is a call of the queue. -/
def asksQueue : WorkerCall → Bool
  | .recoverStale _ _ | .claim _ | .succeed _ _ | .fail _ _ _ _ => true
  | _ => false

/-- Only `claim` claims. -/
theorem claim_of_queueCall {request : WorkerCall} {owner : Str} {maxQuarantined : Int}
    (asked : request.queueCall? = some (.claim owner maxQuarantined)) : request = .claim owner := by
  cases request with
  | claim other =>
    cases asked
    rfl
  | succeed | fail =>
    obtain ⟨storable, same⟩ := Option.dite_none_right_eq_some.mp asked
    cases same
  | _ => cases asked

end WorkerCall

namespace Fleet

variable {settings : Str → Settings} {fleet fleet' : Fleet} {state state' : Delivery}

theorem withProcess_self (fleet : Fleet) (workerId : Str) (process : WorkerProcess) :
    (fleet.withProcess workerId process).processes workerId = process :=
  Function.update_self _ _ _

theorem withProcess_ne (fleet : Fleet) {workerId other : Str} (distinct : other ≠ workerId)
    (process : WorkerProcess) :
    (fleet.withProcess workerId process).processes other = fleet.processes other :=
  Function.update_of_ne distinct _ _

/-- A state of the fleet that steps of the protocol lead to. -/
def Matched (settings : Str → Settings) (state : Delivery) (fleet' : Fleet) : Prop :=
  ∃ state', Runs (Delivery.DisciplinedStep (embeddings settings)) state state' ∧
    fleet'.Refines settings state'

/-- A process and the protocol's phase of its worker move, and the others stay. -/
theorem Refines.moved (refines : fleet.Refines settings state) (workerId : Str)
    (run : Runs (Delivery.DisciplinedStep (embeddings settings)) state state')
    (queue : state'.queue = fleet'.queue) (memory : state'.memory = fleet'.memory)
    (metadata : ∀ id row fields, fleet'.outbox.find? id = some row → row.metadata = .obj fields →
      NormalFields fields)
    (others : ∀ other, other ≠ workerId → fleet'.processes other = fleet.processes other ∧
      state'.phases other = state.phases other ∧
      fleet'.queue.latest other = fleet.queue.latest other)
    (recorded : DeliveryPhase)
    (follows : (fleet'.processes workerId).Follows workerId (embeddings settings workerId)
      (fleet'.queue.latest workerId) recorded)
    (phase : state'.phases workerId = (fleet'.processes workerId).phase recorded) :
    Matched settings state fleet' := by
  have sound : state'.Sound := Runs.keeps run
    (fun _ _ sound taken => let ⟨_, taken⟩ := Delivery.DisciplinedStep.step taken
      (sound.step taken).sound) refines.sound
  refine ⟨state', run, sound, queue, memory, metadata, fun other => ?_⟩
  by_cases same : other = workerId
  · subst same
    exact ⟨recorded, follows, phase⟩
  · obtain ⟨process, stays, latest⟩ := others other same
    rw [process, stays, latest]
    exact refines.processes other

/-- The stores change, and every process stays. -/
theorem Refines.unmoved (refines : fleet.Refines settings state)
    (run : Runs (Delivery.DisciplinedStep (embeddings settings)) state state')
    (queue : state'.queue = fleet'.queue) (memory : state'.memory = fleet'.memory)
    (metadata : ∀ id row fields, fleet'.outbox.find? id = some row → row.metadata = .obj fields →
      NormalFields fields)
    (processes : fleet'.processes = fleet.processes) (phases : state'.phases = state.phases)
    (latest : ∀ workerId, fleet'.queue.latest workerId = fleet.queue.latest workerId) :
    Matched settings state fleet' := by
  obtain ⟨recorded, follows, phase⟩ := refines.processes []
  refine refines.moved [] run queue memory metadata
    (fun other _ => ⟨congrFun processes other, congrFun phases other, latest other⟩) recorded ?_ ?_
  · rw [processes, latest]
    exact follows
  · rw [processes, phases]
    exact phase

/-- A step of a process is matched by the end of its call. -/
theorem Refines.process (refines : fleet.Refines settings state) {lower : Str → Str}
    {workerId : Str} {act : ProcessAct} {process : WorkerProcess}
    (taken : (fleet.processes workerId).next lower (settings workerId) workerId act =
      some process) : Matched settings state (fleet.withProcess workerId process) := by
  obtain ⟨recorded, follows, phase⟩ := refines.processes workerId
  obtain ⟨recorded', follows', moves⟩ := follows.next rfl taken
  have run : Runs (Delivery.DisciplinedStep (embeddings settings)) state
      (state.enter workerId (process.phase recorded')) := by
    rcases moves with same | idle | ⟨request, rest, outcome, stands, explained, ended⟩
    · rw [Delivery.enter_same (phase.trans same.symm)]
    · rw [idle]
      exact Delivery.disciplined_of_next (.abandon workerId) trivial rfl
    · rw [ended]
      refine Delivery.settles ?_ (follows.required request rest stands) explained
      rw [phase, WorkerProcess.phase, stands]
      rfl
  refine refines.moved workerId run refines.queue refines.memory refines.metadata
    (fun other distinct => ⟨withProcess_ne fleet distinct process, ?_, rfl⟩) recorded' ?_ ?_
  · exact Function.update_of_ne distinct _ _
  · rw [withProcess_self]
    exact follows'
  · rw [withProcess_self]
    exact Function.update_self _ _ _

/-! ### Statements of the outbox and the memory store -/

/-- The database executes a statement of a worker's call, and the protocol takes a step. -/
theorem Refines.executed (refines : fleet.Refines settings state) {workerId : Str}
    {progress : CallProgress} {recorded : DeliveryPhase}
    (follows : (fleet.processes workerId).Follows workerId (embeddings settings workerId)
      (fleet.queue.latest workerId) recorded)
    {request : WorkerCall} {rest : Except Raised request.Answer → WorkerCoroutine (ℚ × Nat)}
    (stands : (fleet.processes workerId).worker.program = .call request rest)
    (other : request.asksQueue = false) (act : DeliveryAct) (free : act.Disciplined state)
    (middle : Delivery)
    (taken : Delivery.next (embeddings settings) act state =
      some (middle.enter workerId (progress.phase recorded request)))
    (phases : middle.phases = state.phases)
    (queue : middle.queue = fleet'.queue) (memory : middle.memory = fleet'.memory)
    (handed : fleet'.queue.handed = fleet.queue.handed)
    (processes : fleet'.processes = fleet.processes)
    (metadata : ∀ id row fields, fleet'.outbox.find? id = some row → row.metadata = .obj fields →
      NormalFields fields) :
    Matched settings state
      (fleet'.withProcess workerId { fleet.processes workerId with progress := progress }) := by
  have same : ∀ worker, fleet'.queue.latest worker = fleet.queue.latest worker := by
    intro worker
    rw [QueueState.latest, handed]
    rfl
  refine refines.moved workerId (Delivery.disciplined_of_next act free taken) queue memory metadata
    (fun other distinct => ⟨?_, ?_, same other⟩) recorded ?_ ?_
  · rw [withProcess_ne _ distinct, processes]
  · rw [← phases]
    exact Function.update_of_ne distinct _ _
  · rw [withProcess_self]
    show WorkerProcess.Follows _ _ (fleet'.queue.latest workerId) _ _
    refine follows.answered progress (Or.inl (same workerId)) (fun owner run rest' claims _ => ?_)
    obtain rfl : request = .claim owner := (Coroutine.call.inj (stands.symm.trans claims)).1
    cases other
  · rw [withProcess_self, WorkerProcess.phase, stands]
    exact Function.update_self _ _ _

/-- An update of the outbox changes no summary's metadata. -/
theorem Refines.updated (refines : fleet.Refines settings state) (runId : Str)
    (guard : OutboxRow → Bool) {version : OutboxRow → OutboxRow}
    (keeps : ∀ row, (version row).runId = row.runId)
    (metadata : ∀ row, (version row).metadata = row.metadata) :
    ∀ id row fields,
      (fleet.withOutbox (fleet.outbox.update runId guard version).2).outbox.find? id = some row →
      row.metadata = .obj fields → NormalFields fields := by
  intro id row fields found same
  rw [show (fleet.withOutbox (fleet.outbox.update runId guard version).2).outbox.find? id =
    (fleet.outbox.update runId guard version).2.find? id from rfl,
    Table.find?_update fleet.outbox runId id keeps] at found
  obtain ⟨before, stored, changed⟩ := Option.map_eq_some_iff.mp found
  refine refines.metadata id before fields stored ?_
  rw [← same, ← changed]
  split
  · exact (metadata before).symm
  · rfl

/-- `claim_summary` changes no summary's metadata. -/
theorem Refines.claimedSummary (refines : fleet.Refines settings state) {now : Timestamp}
    {locked : Str → Bool} {workerId : Str} {staleSeconds : Int} {row : OutboxRow} {outbox : Outbox}
    (selected : claimSummaryRow now locked workerId staleSeconds fleet.outbox =
      some (row, outbox)) :
    ∀ id row fields, (fleet.withOutbox outbox).outbox.find? id = some row →
      row.metadata = .obj fields → NormalFields fields := by
  obtain ⟨candidate, stored, -, rfl, rfl⟩ := claimSummaryRow_spec selected
  intro id row fields found same
  replace found := (Table.find?_put _ _ _).symm.trans found
  split at found
  · obtain rfl := Option.some.inj found
    exact refines.metadata _ candidate fields stored same
  · exact refines.metadata id row fields found same

theorem Refines.outbox (refines : fleet.Refines settings state) : state.outbox = fleet.outbox :=
  congrArg (fun queue : QueueState => queue.db.side) refines.queue

theorem Refines.withOutbox (refines : fleet.Refines settings state) (outbox : Outbox) :
    (state.withOutbox outbox).queue = (fleet.withOutbox outbox).queue :=
  congrArg (fun queue : QueueState => { queue with db := { queue.db with side := outbox } })
    refines.queue

section Statements

variable {workerId : Str} {now : Timestamp} {locked : Str → Bool} {backend : MemoryBackend}
  {embeddingDim : Int} {drawnId : Str} {progress : CallProgress}

/-- The statements of `claim_summary`. -/
theorem Refines.claimSummary (refines : fleet.Refines settings state) {owner : Str}
    {staleSeconds : Int}
    {rest : Except Raised (Option SummaryOutboxItem) → WorkerCoroutine (ℚ × Nat)}
    (stands : (fleet.processes workerId).worker.program =
      .call (.claimSummary owner staleSeconds) rest)
    (taken : fleet.executed now locked backend embeddingDim drawnId
      (.claimSummary owner staleSeconds) (fleet.processes workerId).progress =
        some (fleet', progress)) :
    Matched settings state
      (fleet'.withProcess workerId { fleet.processes workerId with progress := progress }) := by
  obtain ⟨recorded, follows, phase⟩ := refines.processes workerId
  obtain ⟨rfl, idle⟩ := follows.required (.claimSummary owner staleSeconds) rest stands
  obtain rfl : recorded = .idle := idle
  rw [WorkerProcess.phase, stands] at phase
  cases reached : (fleet.processes owner).progress with
  | asked rounds =>
    rw [reached] at taken phase
    cases rounds with
    | zero => cases taken
    | succ rounds =>
      simp only [Fleet.executed] at taken
      split at taken
      · cases taken
        exact refines.executed follows stands rfl (.abandon owner) trivial state rfl rfl
          refines.queue refines.memory rfl rfl refines.metadata
      · next row after selected =>
        have claims : claimSummaryRow now locked owner staleSeconds state.outbox =
            some (row, after) := refines.outbox ▸ selected
        have waits : state.phases owner = .idle := phase
        have metadata := refines.claimedSummary selected
        split at taken
        · next item decoded =>
          cases taken
          refine refines.executed follows stands rfl (.claim owner now locked staleSeconds)
            trivial (state.withOutbox after) ?_ rfl (refines.withOutbox after) refines.memory rfl
            rfl metadata
          simp only [Delivery.next, waits, claims, decoded, CallProgress.phase]
        · next error undecoded =>
          cases taken
          refine refines.executed follows stands rfl (.claim owner now locked staleSeconds)
            trivial (state.withOutbox after) ?_ rfl (refines.withOutbox after) refines.memory rfl
            rfl metadata
          simp only [Delivery.next, waits, claims, undecoded, CallProgress.phase]
  | poisoned runId rounds =>
    rw [reached] at taken phase
    cases taken
    have waits : state.phases owner = .poisoned runId := phase
    refine refines.executed follows stands rfl (.quarantine owner now) trivial
      (state.withOutbox (quarantineSummaryClaim now runId owner fleet.outbox)) ?_ rfl
      (refines.withOutbox _) refines.memory rfl rfl (refines.updated runId _ (fun _ => rfl)
        (fun _ => rfl))
    simp only [Delivery.next, waits, refines.outbox]
    split <;> rfl
  | answered reply =>
    rw [reached] at taken
    cases taken

/-- The insertion of a summary's memory. -/
theorem Refines.writeMemory (refines : fleet.Refines settings state)
    {arguments : MemoryStore.WriteArguments} {rest : Except Raised Str → WorkerCoroutine (ℚ × Nat)}
    (stands : (fleet.processes workerId).worker.program = .call (.writeMemory arguments) rest)
    (taken : fleet.executed now locked backend embeddingDim drawnId (.writeMemory arguments)
      (fleet.processes workerId).progress = some (fleet', progress)) :
    Matched settings state
      (fleet'.withProcess workerId { fleet.processes workerId with progress := progress }) := by
  obtain ⟨recorded, follows, phase⟩ := refines.processes workerId
  obtain ⟨item, claimed, matching, rfl⟩ := follows.required (.writeMemory arguments) rest stands
  replace claimed : recorded = .claimed item := claimed
  rw [WorkerProcess.phase, stands] at phase
  cases reached : (fleet.processes workerId).progress with
  | asked rounds =>
    rw [reached] at taken phase
    have waits : state.phases workerId = .claimed item := phase.trans claimed
    -- The item is the item of its row, whose metadata came out of JSON.
    have normal : NormalFields item.metadata := by
      have sound := refines.sound.phases workerId
      rw [waits] at sound
      obtain ⟨row, found, of⟩ := sound
      exact refines.metadata _ row _ (refines.outbox ▸ found) (Json.loads_eq_some of.metadata)
    simp only [Fleet.executed] at taken
    split at taken
    · next row inserted =>
      have same := toMemoryItem_insertion normal inserted
      split at taken
      · next memory wrote =>
        cases taken
        refine refines.executed follows stands rfl (.write workerId drawnId true) trivial
          { state with memory := memory } ?_ rfl refines.queue rfl rfl rfl refines.metadata
        have writes : RlmApi.writeMemory (item.memory drawnId) state.memory = .ok memory := by
          rw [refines.memory, ← same]
          exact wrote
        simp only [Delivery.next, waits, matching, writes, ↓reduceIte, CallProgress.phase,
          DeliveryPhase.afterWrite_claimed claimed]
      · cases taken
    · cases taken
  | poisoned | answered =>
    rw [reached] at taken
    cases taken

/-- `complete_summary`. -/
theorem Refines.completeSummary (refines : fleet.Refines settings state) {item : SummaryOutboxItem}
    {rest : Except Raised Bool → WorkerCoroutine (ℚ × Nat)}
    (stands : (fleet.processes workerId).worker.program = .call (.completeSummary item) rest)
    (taken : fleet.executed now locked backend embeddingDim drawnId (.completeSummary item)
      (fleet.processes workerId).progress = some (fleet', progress)) :
    Matched settings state
      (fleet'.withProcess workerId { fleet.processes workerId with progress := progress }) := by
  obtain ⟨recorded, follows, phase⟩ := refines.processes workerId
  have written : recorded = .written item := follows.required (.completeSummary item) rest stands
  rw [WorkerProcess.phase, stands] at phase
  cases reached : (fleet.processes workerId).progress with
  | asked rounds =>
    rw [reached] at taken phase
    cases taken
    have waits : state.phases workerId = .written item := phase.trans written
    -- That the answer arrives is the end of the call.
    refine refines.executed follows stands rfl (.complete workerId now false) trivial
      (state.withOutbox (RlmApi.completeSummary now item fleet.outbox).2) ?_ rfl
      (refines.withOutbox _) refines.memory rfl rfl (refines.updated item.runId _ (fun _ => rfl)
        (fun _ => rfl))
    simp only [Delivery.next, waits, refines.outbox, Bool.false_eq_true, ↓reduceIte,
      CallProgress.phase]
  | poisoned | answered =>
    rw [reached] at taken
    cases taken

/-- `retry_summary`. -/
theorem Refines.retrySummary (refines : fleet.Refines settings state) {item : SummaryOutboxItem}
    {publicError : Str} {rest : Except Raised Bool → WorkerCoroutine (ℚ × Nat)}
    (stands : (fleet.processes workerId).worker.program =
      .call (.retrySummary item publicError) rest)
    (taken : fleet.executed now locked backend embeddingDim drawnId (.retrySummary item publicError)
      (fleet.processes workerId).progress = some (fleet', progress)) :
    Matched settings state
      (fleet'.withProcess workerId { fleet.processes workerId with progress := progress }) := by
  obtain ⟨recorded, follows, phase⟩ := refines.processes workerId
  have required := follows.required (.retrySummary item publicError) rest stands
  rw [WorkerProcess.phase, stands] at phase
  cases reached : (fleet.processes workerId).progress with
  | asked rounds =>
    rw [reached] at taken phase
    simp only [Fleet.executed] at taken
    split at taken
    · next owned outbox rescheduled =>
      cases taken
      have released : state.reschedule now item publicError = state.withOutbox outbox := by
        rw [Delivery.reschedule, refines.outbox, rescheduled]
      have metadata : ∀ id row fields, (fleet.withOutbox outbox).outbox.find? id = some row →
          row.metadata = .obj fields → NormalFields fields := by
        simp only [RlmApi.retrySummary, except_bind_ok_iff, pure, Except.pure, Except.ok.injEq,
          Prod.mk.injEq] at rescheduled
        obtain ⟨delay, -, -, rfl⟩ := rescheduled
        exact refines.updated item.runId _ (fun _ => rfl) (fun _ => rfl)
      rcases required with ⟨claimed, differs, rfl⟩ | ⟨undelivered, rfl⟩
      · have waits : state.phases workerId = .claimed item := phase.trans claimed
        refine refines.executed follows stands rfl (.mismatch workerId now) trivial
          (state.withOutbox outbox) ?_ rfl (refines.withOutbox outbox) refines.memory rfl rfl
          metadata
        simp only [Delivery.next, waits, differs, Bool.false_eq_true, ↓reduceIte, released,
          CallProgress.phase]
      · have waits : state.phases workerId = .undelivered item := phase.trans undelivered
        refine refines.executed follows stands rfl (.retry workerId now) trivial
          (state.withOutbox outbox) ?_ rfl (refines.withOutbox outbox) refines.memory rfl rfl
          metadata
        simp only [Delivery.next, waits, released, CallProgress.phase]
    · cases taken
  | poisoned | answered =>
    rw [reached] at taken
    cases taken

end Statements

/-! ### Calls of the queue -/

/-- A call of the queue that is committed, by whoever may make it. -/
structure Committed (settings : Str → Settings) (fleet : Fleet) (state : Delivery)
    (operation : Operation) (fleet' : Fleet) (answer : Answer) : Prop where
  step : Runs (Delivery.DisciplinedStep (embeddings settings)) state
    { state with queue := fleet'.queue }
  memory : fleet'.memory = fleet.memory
  processes : fleet'.processes = fleet.processes
  metadata : ∀ id row fields, fleet'.outbox.find? id = some row → row.metadata = .obj fields →
    NormalFields fields
  latest : ∀ workerId, (∀ maxQuarantined, operation ≠ .claim workerId maxQuarantined) →
    fleet'.queue.latest workerId = fleet.queue.latest workerId
  claimed : ∀ run, answer = .claimed (some run) →
    fleet'.queue.latest run.workerId = some run ∧
      ∃ maxQuarantined, operation = .claim run.workerId maxQuarantined

/-- The calls of the queue are calls of the protocol. -/
theorem Refines.committed (refines : fleet.Refines settings state) {now : Timestamp}
    {locked : Str → Bool} {operation : Operation} {answer : Answer}
    (taken : fleet.commit now locked operation = some (fleet', answer))
    (disciplined : QueueState.Disciplined fleet.queue operation)
    (normal : ∀ run arguments, operation = .succeed run arguments →
      NormalFields arguments.summaryMetadata) :
    Committed settings fleet state operation fleet' answer := by
  unfold commit at taken
  split at taken
  · next stored db performed =>
    cases taken
    have linked : fleet.queue.db.Linked := refines.queue ▸ refines.sound.queue.linked
    have effect := perform_effect linked performed
    have handedTo := effect.handedTo
    refine ⟨?_, rfl, rfl, ?_, fun workerId other => ?_, fun run same => ?_⟩
    · refine Delivery.disciplined_of_next (.call now locked operation) ?_ ?_
      · rw [DeliveryAct.Disciplined, refines.queue]
        exact disciplined
      · have received : Delivery.Received fleet.queue operation := by
          cases operation with
          | succeed run arguments => exact (QueueState.workerId_of_latest disciplined).2
          | _ => trivial
        simp only [Delivery.next, refines.queue, if_pos received, performed]
    · intro id row fields found same
      rcases effect.completion with ⟨unchanged, -⟩ | ⟨run, arguments, rfl, rfl, -⟩
      · refine refines.metadata id row fields ?_ same
        rw [← found]
        exact congrArg (fun outbox : Outbox => outbox.find? id) unchanged.symm
      · obtain ⟨embedding, summarized, -, -, -, -, after⟩ :=
          refines.sound.summarized (refines.queue.symm ▸ effect)
        replace found := (after id).symm.trans found
        split at found
        · obtain rfl := Option.some.inj found
          obtain rfl := Json.obj.inj same
          exact normal run arguments rfl
        · exact refines.metadata id row fields (refines.outbox ▸ found) same
    · rcases handedTo with none | ⟨run, maxQuarantined, answered, asked⟩
      · rw [QueueState.latest_after, none]
        rfl
      · have distinct : run.workerId ≠ workerId := by
          rintro rfl
          exact other maxQuarantined asked
        simp [QueueState.latest_after, answered, Answer.handed, distinct]
    · subst same
      rcases handedTo with none | ⟨other, maxQuarantined, answered, asked⟩
      · cases none
      · cases answered
        exact ⟨by simp [QueueState.latest_after, Answer.handed], maxQuarantined, asked⟩
  · cases taken

/-- A call of a worker that the queue has committed. -/
theorem Refines.answered (refines : fleet.Refines settings state) {workerId : Str}
    {request : WorkerCall} {rest : Except Raised request.Answer → WorkerCoroutine (ℚ × Nat)}
    (stands : (fleet.processes workerId).worker.program = .call request rest)
    {operation : Operation} {answer : Answer}
    (committed : Committed settings fleet state operation fleet' answer)
    (quiet : ∀ (progress : CallProgress) recorded, progress.phase recorded request = recorded)
    (claims : ∀ owner maxQuarantined, operation = .claim owner maxQuarantined ↔
      request = .claim owner ∧ maxQuarantined = 10) :
    Matched settings state (fleet'.withProcess workerId
      { fleet.processes workerId with progress := .answered (.queue answer) }) := by
  obtain ⟨recorded, follows, phase⟩ := refines.processes workerId
  have owned : ∀ owner, request = .claim owner → owner = workerId := by
    rintro owner rfl
    exact (follows.required (.claim owner) rest stands).1
  refine refines.moved workerId committed.step rfl (refines.memory.trans committed.memory.symm)
    committed.metadata (fun other distinct => ⟨?_, rfl, committed.latest other (fun _ asked => ?_)⟩)
    recorded ?_ ?_
  · rw [withProcess_ne _ distinct, committed.processes]
  · exact distinct (owned other ((claims _ _).mp asked).1)
  · rw [withProcess_self]
    refine follows.answered _ ?_ (fun owner run rest' asks same => ?_)
    · by_cases asks : ∃ owner, request = .claim owner
      · obtain ⟨owner, rfl⟩ := asks
        exact Or.inr ⟨owner, rest, stands⟩
      · refine Or.inl (committed.latest workerId (fun _ asked => ?_))
        exact asks ⟨_, ((claims _ _).mp asked).1⟩
    · obtain ⟨latest, maxQuarantined, asked⟩ := committed.claimed run (by cases same; rfl)
      rw [← owned run.workerId ((claims _ _).mp asked).1]
      exact latest
  · rw [withProcess_self, WorkerProcess.phase, stands]
    show state.phases workerId = CallProgress.phase _ recorded request
    rw [phase, WorkerProcess.phase, stands, quiet]
    exact quiet _ _

/-- A call of the queue is executed as one transaction. -/
theorem commit_of_executed {now : Timestamp} {locked : Str → Bool} {backend : MemoryBackend}
    {embeddingDim : Int} {drawnId : Str} {request : WorkerCall} {reached progress : CallProgress}
    (queued : request.asksQueue = true)
    (taken : fleet.executed now locked backend embeddingDim drawnId request reached =
      some (fleet', progress)) :
    ∃ operation answer, request.queueCall? = some operation ∧
      fleet.commit now locked operation = some (fleet', answer) ∧
      progress = .answered (.queue answer) := by
  have once : fleet.executed now locked backend embeddingDim drawnId request reached =
      if reached.isAsked then
        (request.queueCall?.bind (fun operation => fleet.commit now locked operation)).map
          (fun committed => (committed.1, .answered (.queue committed.2)))
      else none := by
    cases request <;> cases queued <;> cases reached <;> rfl
  rw [once] at taken
  split at taken
  · obtain ⟨⟨after, answer⟩, committed, same⟩ := Option.map_eq_some_iff.mp taken
    obtain ⟨operation, asked, commits⟩ := Option.bind_eq_some_iff.mp committed
    cases same
    exact ⟨operation, answer, asked, commits, rfl⟩
  · cases taken

/-- A process asks the queue about the claim it received last. -/
theorem Refines.requested (refines : fleet.Refines settings state) {workerId : Str}
    {request : WorkerCall} {rest : Except Raised request.Answer → WorkerCoroutine (ℚ × Nat)}
    (stands : (fleet.processes workerId).worker.program = .call request rest)
    {operation : Operation} (asked : request.queueCall? = some operation) :
    QueueState.Disciplined fleet.queue operation ∧
      ∀ run arguments, operation = .succeed run arguments →
        NormalFields arguments.summaryMetadata := by
  obtain ⟨recorded, follows, -⟩ := refines.processes workerId
  have required := follows.required request rest stands
  cases request with
  | recoverStale | claim =>
    cases asked
    exact ⟨trivial, fun _ _ same => by cases same⟩
  | succeed run report =>
    obtain ⟨latest, normal⟩ := required
    obtain ⟨storable, asked⟩ := Option.dite_none_right_eq_some.mp asked
    cases asked
    obtain ⟨rfl, -⟩ := QueueState.workerId_of_latest latest
    refine ⟨latest, fun other arguments same => ?_⟩
    cases same
    exact normal
  | fail run publicError eventMetadata retryable =>
    obtain ⟨storable, asked⟩ := Option.dite_none_right_eq_some.mp asked
    cases asked
    obtain ⟨rfl, -⟩ := QueueState.workerId_of_latest required
    exact ⟨required, fun _ _ same => by cases same⟩
  | _ => cases asked

/-- The database executes a statement or a transaction of a call under way. -/
theorem Refines.execute (refines : fleet.Refines settings state) {workerId : Str} {now : Timestamp}
    {locked : Str → Bool} {backend : MemoryBackend} {embeddingDim : Int} {drawnId : Str}
    {request : WorkerCall} {rest : Except Raised request.Answer → WorkerCoroutine (ℚ × Nat)}
    (stands : (fleet.processes workerId).worker.program = .call request rest)
    {progress : CallProgress}
    (taken : fleet.executed now locked backend embeddingDim drawnId request
      (fleet.processes workerId).progress = some (fleet', progress)) :
    Matched settings state
      (fleet'.withProcess workerId { fleet.processes workerId with progress := progress }) := by
  cases request with
  | claimSummary owner staleSeconds => exact refines.claimSummary stands taken
  | writeMemory arguments => exact refines.writeMemory stands taken
  | completeSummary item => exact refines.completeSummary stands taken
  | retrySummary item publicError => exact refines.retrySummary stands taken
  | recoverStale | succeed | fail =>
    obtain ⟨operation, answer, asked, commits, rfl⟩ := commit_of_executed rfl taken
    obtain ⟨disciplined, normal⟩ := refines.requested stands asked
    refine refines.answered stands (refines.committed commits disciplined normal)
      (fun progress _ => by cases progress <;> rfl)
      (fun owner maxQuarantined => ⟨?_, fun same => by cases same.1⟩)
    rintro rfl
    cases WorkerCall.claim_of_queueCall asked
  | claim owner =>
    obtain ⟨operation, answer, asked, commits, rfl⟩ := commit_of_executed rfl taken
    obtain ⟨disciplined, normal⟩ := refines.requested stands asked
    cases asked
    exact refines.answered stands (refines.committed commits disciplined normal)
      (fun progress _ => by cases progress <;> rfl) (by simp [eq_comm])
  | monotonic | start | awaitExecution | stop | leaseLost =>
    cases reached : (fleet.processes workerId).progress <;> rw [reached] at taken <;> cases taken

/-! ### Every step -/

/-- The heartbeat loop speaks of the claim that its process received last. -/
theorem Refines.heartbeat (refines : fleet.Refines settings state) {workerId : Str}
    {operation : Operation} (asked : (fleet.processes workerId).heartbeatCall? = some operation) :
    QueueState.Disciplined fleet.queue operation ∧
      (∀ run arguments, operation ≠ .succeed run arguments) ∧
      ∀ owner maxQuarantined, operation ≠ .claim owner maxQuarantined := by
  obtain ⟨recorded, follows, -⟩ := refines.processes workerId
  unfold WorkerProcess.heartbeatCall? at asked
  split at asked
  · next execution cancelling leaseLost run running started =>
    cases asked
    have beats := follows.beats (by rw [WorkerState.heartbeatDone, running]; rfl)
    have latest := beats.symm.trans started
    obtain ⟨rfl, -⟩ := QueueState.workerId_of_latest latest
    exact ⟨latest, (fun _ _ same => by cases same), fun _ _ same => by cases same⟩
  · cases asked
    exact ⟨trivial, (fun _ _ same => by cases same), fun _ _ same => by cases same⟩
  · cases asked

/-- Every step of the fleet is matched by disciplined steps of the protocol. -/
theorem Refines.step (refines : fleet.Refines settings state) {lower : Str → Str}
    (taken : Step lower settings fleet fleet') : Matched settings state fleet' := by
  obtain ⟨act, taken⟩ := taken
  cases act with
  | process workerId act =>
    obtain ⟨process, moved, rfl⟩ := Option.map_eq_some_iff.mp taken
    exact refines.process moved
  | execute workerId now locked backend drawnId =>
    simp only [next] at taken
    split at taken
    · cases taken
    · next request rest stands =>
      obtain ⟨⟨after, progress⟩, executed, rfl⟩ := Option.map_eq_some_iff.mp taken
      exact refines.execute stands executed
  | beat workerId now locked =>
    obtain ⟨⟨after, answer⟩, committed, rfl⟩ := Option.map_eq_some_iff.mp taken
    obtain ⟨operation, asked, commits⟩ := Option.bind_eq_some_iff.mp committed
    obtain ⟨disciplined, other, unclaimed⟩ := refines.heartbeat asked
    have committed := refines.committed commits disciplined (fun run arguments same =>
      absurd same (other run arguments))
    exact refines.unmoved committed.step rfl (refines.memory.trans committed.memory.symm)
      committed.metadata committed.processes rfl (fun worker => committed.latest worker
        (unclaimed worker))
  | enqueue now locked runId arguments =>
    obtain ⟨⟨after, answer⟩, commits, rfl⟩ := Option.map_eq_some_iff.mp taken
    have committed := refines.committed commits trivial (fun _ _ same => by cases same)
    exact refines.unmoved committed.step rfl (refines.memory.trans committed.memory.symm)
      committed.metadata committed.processes rfl (fun worker =>
        committed.latest worker (fun _ same => by cases same))
  | remember item =>
    simp only [next] at taken
    split at taken
    · cases taken
    · next own =>
      split at taken
      · next memory wrote =>
        cases taken
        have remembered : Delivery.next (embeddings settings) (.remember item) state =
            some { state with memory := memory } := by
          simp only [Delivery.next, own, refines.memory, wrote]
          rfl
        exact refines.unmoved (Delivery.disciplined_of_next (.remember item) trivial remembered)
          refines.queue rfl refines.metadata rfl rfl (fun _ => rfl)
      · cases taken
  | expire now =>
    cases taken
    refine refines.unmoved (Delivery.disciplined_of_next (.expire now) trivial rfl) refines.queue ?_
      refines.metadata rfl rfl (fun _ => rfl)
    exact congrArg (fun memory : MemoryItems =>
      memory.filter (fun item => item.expiresAt.all (fun time => now ≤ time))) refines.memory

/-! ## Whole runs -/

theorem refines_initial (lower : Str → Str) (settings : Str → Settings) :
    (initial lower settings).Refines settings Delivery.initial := by
  refine ⟨Delivery.Sound.initial, rfl, rfl, fun _ _ _ found => ?_, fun workerId => ?_⟩
  · cases found
  obtain ⟨follows, idle⟩ :=
    WorkerProcess.follows_initial lower (settings workerId) workerId 0 none
  exact ⟨.idle, follows, idle.symm⟩

/-- Every run of the fleet is a run of the protocol, and goes on as one. -/
theorem refined_of_runs {lower : Str → Str} (reached : Reachable lower settings fleet)
    (continued : Runs (Step lower settings) fleet fleet') :
    ∃ state state', Runs (Delivery.DisciplinedStep (embeddings settings)) Delivery.initial state ∧
      fleet.Refines settings state ∧
      Runs (Delivery.DisciplinedStep (embeddings settings)) state state' ∧
      fleet'.Refines settings state' := by
  have matched : ∀ (before after : Fleet) (state : Delivery), before.Refines settings state →
      Step lower settings before after → Matched settings state after :=
    fun _ _ _ refines taken => refines.step taken
  obtain ⟨state, early, refines⟩ := Runs.simulated reached matched (refines_initial lower settings)
  obtain ⟨state', late, refines'⟩ := Runs.simulated continued matched refines
  exact ⟨state, state', early, refines, late, refines'⟩

/-- Whatever the processes of the fleet do, are told and are not told, wherever they are
cancelled or stop for good, stores and queue go through a run of the delivery protocol
with disciplined workers. -/
theorem fleet_refines_delivery {lower : Str → Str} (reached : Reachable lower settings fleet) :
    ∃ state, Runs (Delivery.DisciplinedStep (embeddings settings)) Delivery.initial state ∧
      fleet.Refines settings state := by
  obtain ⟨state, -, run, refines, -⟩ := refined_of_runs reached .refl
  exact ⟨state, run, refines⟩

/-! ### A small fleet -/

/-- One worker, of one summary and one run a cycle. -/
def soloSettings (_ : Str) : Settings where
  databaseUrl := lit "postgresql://"
  rootModel := lit "root"
  subModel := lit "sub"
  embeddingModel := lit "embed"
  embeddingDim := 8
  apiKeys := []
  dbPoolSize := 10
  embeddedWorker := false
  workerPollSeconds := .finite 1
  workerStaleSeconds := 60
  workerBatchSize := 1
  workerMaxPollFailures := 5
  workerRecoveryBatchSize := 100

/-- All texts have one embedding. -/
def soloBackend : MemoryBackend where
  provider := fun _ => .ok [List.replicate 8 (.finite 1)]
  distance := fun _ _ => 0
  hits := fun _ _ => false
  textRank := fun _ _ => 0
  toReal := id
  timestamptz := fun _ => none

/-- A step of the worker. -/
def soloStep (act : ProcessAct) : FleetAct := .process (lit "w") act

/-- The call under way ends as it should. -/
def goOn : FleetAct := soloStep (.resume 0 true .cancelled)

/-- The database executes the call under way. -/
def soloExecute (now : Int) (drawnId : String) : FleetAct :=
  .execute (lit "w") (seconds now) (fun _ => false) soloBackend (lit drawnId)

/-- A run is enqueued and executed in one cycle. -/
def executedCycle : List FleetAct :=
  [.enqueue 0 (fun _ => false) smallId (smallRequest 2),
    goOn, soloExecute 1 "", goOn, soloExecute 2 "", goOn, goOn, goOn,
    soloStep (.execution (.ok (⟨.str (lit "3"), .list [], .null⟩, []))), goOn, goOn,
    soloExecute 3 "", goOn, soloStep (.heartbeat .raised true), goOn, goOn, goOn]

/-- Its summary is written, but the answer is lost; the next cycle delivers it again. -/
def deliveredTwice : List FleetAct :=
  [soloStep (.begin 0), goOn, soloExecute 4 "", goOn, soloExecute 5 "first",
    soloStep (.resume 0 false (.builtin [.other (lit "ConnectionError")])), soloExecute 6 "", goOn,
    soloExecute 7 "", goOn,
    soloStep (.begin 0), goOn, soloExecute 100 "", goOn, soloExecute 101 "second", goOn,
    soloExecute 102 "", goOn, soloExecute 103 "", goOn]

/-- The ids of the memories, and what became of the run. -/
def soloOutcome (fleet : Fleet) : List Str × Option RunStatus :=
  (fleet.memory.rows.map MemoryItem.id, (fleet.queue.db.run? smallId.text).map RunRow.status)

/-- The fleet after each of the two. -/
theorem soloFleet : ∃ earlier fleet,
    Reachable id soloSettings earlier ∧ Runs (Step id soloSettings) earlier fleet ∧
    soloOutcome earlier = ([], some .succeeded) ∧
    soloOutcome fleet = ([lit "first"], some .succeeded) := by
  have ran : (replay (next id soloSettings) executedCycle (initial id soloSettings)).bind
      (fun earlier => (replay (next id soloSettings) deliveredTwice earlier).map
        (fun fleet => (soloOutcome earlier, soloOutcome fleet))) =
      some (([], some .succeeded), ([lit "first"], some .succeeded)) := by
    decide +kernel
  obtain ⟨earlier, executed, rest⟩ := Option.bind_eq_some_iff.mp ran
  obtain ⟨fleet, delivered, observed⟩ := Option.map_eq_some_iff.mp rest
  obtain ⟨before, after⟩ := Prod.mk.inj observed
  exact ⟨earlier, fleet, runs_of_replay (fun act _ _ taken => ⟨act, taken⟩) executed,
    runs_of_replay (fun act _ _ taken => ⟨act, taken⟩) delivered, before, after⟩

/-- Two insertions, one memory, and a run of the protocol behind them. -/
theorem fleet_refines_delivery_solo : ∃ fleet state,
    soloOutcome fleet = ([lit "first"], some .succeeded) ∧
    Runs (Delivery.DisciplinedStep (embeddings soloSettings)) Delivery.initial state ∧
    fleet.Refines soloSettings state := by
  obtain ⟨earlier, fleet, reached, continued, -, delivered⟩ := soloFleet
  obtain ⟨state, run, refines⟩ := fleet_refines_delivery (reached.trans continued)
  exact ⟨fleet, state, delivered, run, refines⟩

/-! ## What the fleet inherits -/

/-- A process has this call of the queue under way, or its heartbeat loop has. -/
def Asks (fleet : Fleet) (workerId : Str) (operation : Operation) : Prop :=
  (∃ request rest, (fleet.processes workerId).worker.program = .call request rest ∧
    request.queueCall? = some operation) ∨
  (fleet.processes workerId).heartbeatCall? = some operation

/-- What the fleet has made of one run: it is claimed under increasing attempts, its
last state is final, it is remembered at most once, and a call about a claim that has
lost its lease does nothing. -/
structure Safe (earlier fleet : Fleet) (id : Str) : Prop where
  claims : Numbered (fleet.queue.claimsOf id)
  final : ∀ row, earlier.queue.db.run? id = some row →
    row.status = .succeeded ∨ row.status = .failed → fleet.queue.db.run? id = some row
  once : (fleet.memory.rows.filter (fun item => decide (item.sourceRunId = some id))).length ≤ 1
  fenced : ∀ workerId operation run, fleet.Asks workerId operation →
    QueueState.subject operation = some run → run.id = id → ¬ fleet.queue.InLease run →
    ∀ now locked, perform now locked operation fleet.queue.db =
      .ok (QueueState.refusal operation, fleet.queue.db)

/-- No run of the fleet loses or duplicates what a run of the queue has come to. -/
theorem fleet_safe {lower : Str → Str} (reached : Reachable lower settings fleet)
    (continued : Runs (Step lower settings) fleet fleet') (id : Str) : Safe fleet fleet' id := by
  obtain ⟨state, state', -, refines, late, refines'⟩ := refined_of_runs reached continued
  have sound : fleet'.queue.Sound := refines'.queue ▸ refines'.sound.queue
  have steps : Runs (Delivery.Step (embeddings settings)) state state' :=
    late.mono (fun _ _ taken => Delivery.DisciplinedStep.step taken) _ _
  refine ⟨sound.accounted.numbered id, fun row found ended => ?_, ?_, ?_⟩
  · rw [← refines'.queue]
    exact (Delivery.followed_of_runs refines.sound steps).final id row (refines.queue ▸ found) ended
  · have once := refines'.sound.memoriesOf_length_le id
    rw [Delivery.memoriesOf, refines'.memory] at once
    exact once
  · intro workerId operation run asks about _ lost now locked
    have disciplined : QueueState.Disciplined fleet'.queue operation := by
      rcases asks with ⟨request, rest, stands, asked⟩ | asked
      · exact (refines'.requested stands asked).1
      · exact (refines'.heartbeat asked).1
    have latest : fleet'.queue.latest run.workerId = some run := by
      cases operation with
      | heartbeat | succeed | fail => exact Option.some.inj about ▸ disciplined
      | enqueue | claim | recoverStale | report => cases about
    obtain ⟨handed, current⟩ := sound.latest_current latest
    exact sound.fenced handed current about lost now locked

theorem fleet_safe_solo : ∃ earlier fleet,
    soloOutcome earlier = ([], some .succeeded) ∧
    soloOutcome fleet = ([lit "first"], some .succeeded) ∧ Safe earlier fleet smallId.text := by
  obtain ⟨earlier, fleet, reached, continued, executed, delivered⟩ := soloFleet
  exact ⟨earlier, fleet, executed, delivered, fleet_safe reached continued _⟩

end Fleet

end RlmApi
