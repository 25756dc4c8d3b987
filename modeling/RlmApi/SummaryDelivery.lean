import RlmApi.MemoryStore
import RlmApi.QueueHistory
import RlmApi.SummaryOutbox

/-!
# Delivery of run summaries

A worker claims a summary from the outbox, writes it to the memory store, and
completes it in the outbox. The three statements commit one by one, any other
statements may come between them, and the worker may stop after each of them. When
its lease has become stale meanwhile, another worker may have claimed the summary.

Every worker is in one phase of `_deliver_summary`. A phase carries the item the
worker decoded, and outlives the lease it was decoded under.
-/

namespace RlmApi

open RunStore

/-- What a worker is about to do with a summary. -/
inductive DeliveryPhase where
  | idle
  /-- The claimed row could not be decoded and is to be quarantined. -/
  | poisoned (runId : Str)
  /-- The item is to be written, or rescheduled. -/
  | claimed (item : SummaryOutboxItem)
  /-- The item is written and to be completed. -/
  | written (item : SummaryOutboxItem)
  /-- Something raised, and the item is to be rescheduled. -/
  | undelivered (item : SummaryOutboxItem)

/-- The queue with its record, the memory store and the workers' phases. -/
structure Delivery where
  queue : QueueState
  memory : MemoryItems
  phases : Str → DeliveryPhase

/-- What happens next. `delivered` says whether the answer of a statement reaches
the worker; otherwise its call raises although the statement was executed. -/
inductive DeliveryAct where
  /-- A call of the queue commits. -/
  | call (now : Timestamp) (locked : Str → Bool) (operation : Operation)
  /-- The statement of `claim_summary`. -/
  | claim (workerId : Str) (now : Timestamp) (locked : Str → Bool) (staleSeconds : Int)
  /-- `_quarantine_summary_claim`. -/
  | quarantine (workerId : Str) (now : Timestamp)
  /-- `retry_summary` for an item of another embedding configuration. -/
  | mismatch (workerId : Str) (now : Timestamp)
  /-- `MemoryStore.write`. -/
  | write (workerId memoryId : Str) (delivered : Bool)
  | writeRaises (workerId : Str)
  /-- `complete_summary`. -/
  | complete (workerId : Str) (now : Timestamp) (delivered : Bool)
  | completeRaises (workerId : Str)
  /-- `retry_summary` after something raised. -/
  | retry (workerId : Str) (now : Timestamp)
  /-- The worker stops, or its cycle raises, and it begins anew. -/
  | abandon (workerId : Str)
  /-- A client of the API writes a memory. -/
  | remember (item : MemoryItem)
  /-- Expired memories are removed. -/
  | expire (now : Timestamp)

/-- The memory `_deliver_summary` writes for an item. -/
def SummaryOutboxItem.memory (item : SummaryOutboxItem) (memoryId : Str) : MemoryItem where
  id := memoryId
  tenantId := item.tenantId
  subjectId := item.subjectId
  namespaceName := item.namespaceName
  kind := .runSummary
  content := item.content
  metadata := .obj item.metadata
  expiresAt := none
  sourceRunId := some item.runId

namespace Delivery

/-- Empty tables, and workers that have not begun. -/
def initial : Delivery := ⟨QueueState.initial, Table.empty, fun _ => .idle⟩

def outbox (state : Delivery) : Outbox := state.queue.db.side

def withOutbox (state : Delivery) (outbox : Outbox) : Delivery :=
  { state with queue := { state.queue with db := { state.queue.db with side := outbox } } }

def enter (state : Delivery) (workerId : Str) (phase : DeliveryPhase) : Delivery :=
  { state with phases := Function.update state.phases workerId phase }

/-- A success is stored for a run that was handed out, by whichever worker. -/
def Received (queue : QueueState) : Operation → Prop
  | .succeed run _ => run ∈ queue.handed
  | _ => True

instance (queue : QueueState) (operation : Operation) : Decidable (Received queue operation) :=
  match operation with
  | .succeed run _ => inferInstanceAs (Decidable (run ∈ queue.handed))
  | .enqueue _ _ | .claim _ _ | .heartbeat _ | .fail _ _ | .recoverStale _ _ | .report _ _ =>
    .isTrue trivial

/-- The worker's embedding configuration is the item's. -/
def matchesEmbedding (embedding : Str × Int) (item : SummaryOutboxItem) : Bool :=
  item.embeddingModel = embedding.1 && item.embeddingDim = embedding.2

/-- `retry_summary` by a worker that then goes on. Where it raises, nothing was
executed. -/
def reschedule (state : Delivery) (now : Timestamp) (item : SummaryOutboxItem)
    (publicError : Str) : Delivery :=
  match retrySummary now item publicError state.outbox with
  | .ok (_, outbox) => state.withOutbox outbox
  | .error _ => state

/-- It is an update of the row in the worker's lease, or nothing. -/
theorem reschedule_cases (state : Delivery) (now : Timestamp) (item : SummaryOutboxItem)
    (publicError : Str) :
    (∃ delay, state.reschedule now item publicError =
      state.withOutbox (state.outbox.update item.runId (summaryLeasedBy item.workerId)
        (retriedSummary now delay publicError)).2) ∨
      state.reschedule now item publicError = state := by
  unfold reschedule
  split
  · next answered outbox rescheduled =>
    simp only [retrySummary, except_bind_ok_iff, pure, Except.pure, Except.ok.injEq,
      Prod.mk.injEq] at rescheduled
    obtain ⟨delay, -, -, rfl⟩ := rescheduled
    exact Or.inl ⟨delay, rfl⟩
  · exact Or.inr rfl

/-- The step function; `embedding` is each worker's configured model and dimension. -/
def next (embedding : Str → Str × Int) (act : DeliveryAct) (state : Delivery) : Option Delivery :=
  match act with
  | .call now locked operation =>
    if Received state.queue operation then
      match perform now locked operation state.queue.db with
      | .ok (answer, db) => some { state with queue := state.queue.after now operation answer db }
      | .error _ => none
    else none
  | .claim workerId now locked staleSeconds =>
    match state.phases workerId, claimSummaryRow now locked workerId staleSeconds state.outbox with
    | .idle, some (row, outbox) =>
      match decodeSummary row.returning workerId with
      | .ok item => some ((state.withOutbox outbox).enter workerId (.claimed item))
      | .error _ => some ((state.withOutbox outbox).enter workerId (.poisoned row.runId))
    | _, _ => none
  | .quarantine workerId now =>
    match state.phases workerId with
    | .poisoned runId =>
      some ((state.withOutbox (quarantineSummaryClaim now runId workerId state.outbox)).enter
        workerId .idle)
    | _ => none
  | .mismatch workerId now =>
    match state.phases workerId with
    | .claimed item =>
      if matchesEmbedding (embedding workerId) item then none
      else some ((state.reschedule now item (lit "embedding_configuration_mismatch")).enter
        workerId .idle)
    | _ => none
  | .write workerId memoryId delivered =>
    match state.phases workerId with
    | .claimed item =>
      if matchesEmbedding (embedding workerId) item then
        match writeMemory (item.memory memoryId) state.memory with
        | .ok memory =>
          some ({ state with memory := memory }.enter workerId
            (if delivered then .written item else .undelivered item))
        | .error _ => none
      else none
    | _ => none
  | .writeRaises workerId =>
    match state.phases workerId with
    | .claimed item =>
      if matchesEmbedding (embedding workerId) item then
        some (state.enter workerId (.undelivered item))
      else none
    | _ => none
  | .complete workerId now delivered =>
    match state.phases workerId with
    | .written item =>
      some ((state.withOutbox (completeSummary now item state.outbox).2).enter workerId
        (if delivered then .idle else .undelivered item))
    | _ => none
  | .completeRaises workerId =>
    match state.phases workerId with
    | .written item => some (state.enter workerId (.undelivered item))
    | _ => none
  | .retry workerId now =>
    match state.phases workerId with
    | .undelivered item =>
      some ((state.reschedule now item (lit "summary_delivery_failed")).enter workerId .idle)
    | _ => none
  | .abandon workerId => some (state.enter workerId .idle)
  | .remember item =>
    if item.sourceRunId.isSome then none
    else match writeMemory item state.memory with
      | .ok memory => some { state with memory := memory }
      | .error _ => none
  | .expire now =>
    some { state with
      memory := state.memory.filter (fun item => item.expiresAt.all (fun time => now ≤ time)) }

/-- What a step does, branch by branch. -/
inductive Taken (embedding : Str → Str × Int) (state : Delivery) : DeliveryAct → Delivery → Prop
  | call {now : Timestamp} {locked : Str → Bool} {operation : Operation} {answer : Answer}
      {db : Database} (received : Received state.queue operation)
      (performed : perform now locked operation state.queue.db = .ok (answer, db)) :
      Taken embedding state (.call now locked operation)
        { state with queue := state.queue.after now operation answer db }
  | claimed {workerId : Str} {now : Timestamp} {locked : Str → Bool} {staleSeconds : Int}
      {row : OutboxRow} {outbox : Outbox} {item : SummaryOutboxItem}
      (selected :
        claimSummaryRow now locked workerId staleSeconds state.outbox = some (row, outbox))
      (decoded : decodeSummary row.returning workerId = .ok item) :
      Taken embedding state (.claim workerId now locked staleSeconds)
        ((state.withOutbox outbox).enter workerId (.claimed item))
  | poisoned {workerId : Str} {now : Timestamp} {locked : Str → Bool} {staleSeconds : Int}
      {row : OutboxRow} {outbox : Outbox} {error : PyError}
      (selected :
        claimSummaryRow now locked workerId staleSeconds state.outbox = some (row, outbox))
      (undecoded : decodeSummary row.returning workerId = .error error) :
      Taken embedding state (.claim workerId now locked staleSeconds)
        ((state.withOutbox outbox).enter workerId (.poisoned row.runId))
  | quarantine {workerId runId : Str} {now : Timestamp}
      (phase : state.phases workerId = .poisoned runId) :
      Taken embedding state (.quarantine workerId now)
        ((state.withOutbox (quarantineSummaryClaim now runId workerId state.outbox)).enter
          workerId .idle)
  | mismatch {workerId : Str} {now : Timestamp} {item : SummaryOutboxItem}
      (phase : state.phases workerId = .claimed item)
      (differs : matchesEmbedding (embedding workerId) item = false) :
      Taken embedding state (.mismatch workerId now)
        ((state.reschedule now item (lit "embedding_configuration_mismatch")).enter workerId .idle)
  | write {workerId memoryId : Str} {delivered : Bool} {item : SummaryOutboxItem}
      (phase : state.phases workerId = .claimed item)
      (same : matchesEmbedding (embedding workerId) item = true) :
      Taken embedding state (.write workerId memoryId delivered)
        ({ state with memory := insertMemory (item.memory memoryId) state.memory }.enter workerId
          (if delivered then .written item else .undelivered item))
  | writeRaises {workerId : Str} {item : SummaryOutboxItem}
      (phase : state.phases workerId = .claimed item) :
      Taken embedding state (.writeRaises workerId) (state.enter workerId (.undelivered item))
  | complete {workerId : Str} {now : Timestamp} {delivered : Bool} {item : SummaryOutboxItem}
      (phase : state.phases workerId = .written item) :
      Taken embedding state (.complete workerId now delivered)
        ((state.withOutbox (completeSummary now item state.outbox).2).enter workerId
          (if delivered then .idle else .undelivered item))
  | completeRaises {workerId : Str} {item : SummaryOutboxItem}
      (phase : state.phases workerId = .written item) :
      Taken embedding state (.completeRaises workerId) (state.enter workerId (.undelivered item))
  | retry {workerId : Str} {now : Timestamp} {item : SummaryOutboxItem}
      (phase : state.phases workerId = .undelivered item) :
      Taken embedding state (.retry workerId now)
        ((state.reschedule now item (lit "summary_delivery_failed")).enter workerId .idle)
  | abandon {workerId : Str} :
      Taken embedding state (.abandon workerId) (state.enter workerId .idle)
  | remember {item : MemoryItem} (own : item.sourceRunId = none) :
      Taken embedding state (.remember item)
        { state with memory := insertMemory item state.memory }
  | expire {now : Timestamp} :
      Taken embedding state (.expire now)
        { state with
          memory := state.memory.filter (fun item => item.expiresAt.all (fun time => now ≤ time)) }

section Taken

variable {embedding : Str → Str × Int} {state state' : Delivery} {workerId : Str}
  {now : Timestamp}

theorem taken_call {locked : Str → Bool} {operation : Operation}
    (taken : next embedding (.call now locked operation) state = some state') :
    Taken embedding state (.call now locked operation) state' := by
  simp only [next] at taken
  split at taken
  · next received =>
    split at taken
    · next answer db performed =>
      cases taken
      exact .call received performed
    · cases taken
  · cases taken

theorem taken_claim {locked : Str → Bool} {staleSeconds : Int}
    (taken : next embedding (.claim workerId now locked staleSeconds) state = some state') :
    Taken embedding state (.claim workerId now locked staleSeconds) state' := by
  simp only [next] at taken
  split at taken
  · next row outbox idle selected =>
    split at taken
    · next item decoded =>
      cases taken
      exact .claimed selected decoded
    · next error undecoded =>
      cases taken
      exact .poisoned selected undecoded
  · cases taken

theorem taken_mismatch (taken : next embedding (.mismatch workerId now) state = some state') :
    Taken embedding state (.mismatch workerId now) state' := by
  simp only [next] at taken
  split at taken
  · next item phase =>
    split at taken
    · cases taken
    · next differs =>
      cases taken
      exact .mismatch phase (Bool.not_eq_true _ ▸ differs)
  · cases taken

theorem taken_write {memoryId : Str} {delivered : Bool}
    (taken : next embedding (.write workerId memoryId delivered) state = some state') :
    Taken embedding state (.write workerId memoryId delivered) state' := by
  simp only [next] at taken
  split at taken
  · next item phase =>
    split at taken
    · next same =>
      split at taken
      · next memory wrote =>
        cases taken
        obtain rfl := writeMemory_ok wrote
        exact .write phase same
      · cases taken
    · cases taken
  · cases taken

theorem taken_writeRaises (taken : next embedding (.writeRaises workerId) state = some state') :
    Taken embedding state (.writeRaises workerId) state' := by
  simp only [next] at taken
  split at taken
  · next item phase =>
    split at taken
    · cases taken
      exact .writeRaises phase
    · cases taken
  · cases taken

theorem taken_remember {item : MemoryItem}
    (taken : next embedding (.remember item) state = some state') :
    Taken embedding state (.remember item) state' := by
  simp only [next] at taken
  split at taken
  · cases taken
  · next own =>
    split at taken
    · next memory wrote =>
      cases taken
      obtain rfl := writeMemory_ok wrote
      exact .remember (Option.not_isSome_iff_eq_none.mp own)
    · cases taken

/-- Every step is one of them; nothing after this unfolds the step function. -/
theorem taken_of_next {act : DeliveryAct} (taken : next embedding act state = some state') :
    Taken embedding state act state' := by
  cases act with
  | call => exact taken_call taken
  | claim => exact taken_claim taken
  | mismatch => exact taken_mismatch taken
  | write => exact taken_write taken
  | writeRaises => exact taken_writeRaises taken
  | remember => exact taken_remember taken
  | quarantine workerId now =>
    simp only [next] at taken
    split at taken
    · next runId phase =>
      cases taken
      exact .quarantine phase
    · cases taken
  | complete workerId now delivered =>
    simp only [next] at taken
    split at taken
    · next item phase =>
      cases taken
      exact .complete phase
    · cases taken
  | completeRaises workerId =>
    simp only [next] at taken
    split at taken
    · next item phase =>
      cases taken
      exact .completeRaises phase
    · cases taken
  | retry workerId now =>
    simp only [next] at taken
    split at taken
    · next item phase =>
      cases taken
      exact .retry phase
    · cases taken
  | abandon workerId =>
    cases taken
    exact .abandon
  | expire now =>
    cases taken
    exact .expire

end Taken

/-- One step, of anybody. -/
def Step (embedding : Str → Str × Int) (state state' : Delivery) : Prop :=
  ∃ act, next embedding act state = some state'

/-- The states that steps lead to from empty tables. -/
def Reachable (embedding : Str → Str × Int) (state : Delivery) : Prop :=
  Runs (Step embedding) initial state

end Delivery

end RlmApi
