import RlmApi.ClaimExecution
import RlmApi.RequestProvenance

/-!
# Rolling deployments

Workers of one deployment may differ in their embedding configuration. A deployment
is the delivery with a record that nobody reads: the request each run was enqueued
with, and the worker whose store embedded each memory. A worker's store embeds with
the worker's own configuration, so the record says in which space a memory lies.

The configuration passes from the request into the run, from there by the claim that
succeeds into the outbox, and is compared with the worker's before an execution and
before a delivery. Nothing on the way changes it.
-/

namespace RlmApi

open RunStore

/-- The request asks for this embedding configuration. -/
def RunStore.EnqueueArguments.Embeds (request : EnqueueArguments)
    (configuration : Str × Int) : Prop :=
  request.modelConfig.lookup (lit "embedding_model") = some (.text configuration.1) ∧
    request.modelConfig.lookup (lit "embedding_dim") = some (.number configuration.2)

instance (request : EnqueueArguments) (configuration : Str × Int) :
    Decidable (request.Embeds configuration) :=
  inferInstanceAs (Decidable (_ ∧ _))

/-- The configuration stored with a summary. -/
def OutboxRow.configuration (row : OutboxRow) : Str × Int := (row.embeddingModel, row.embeddingDim)

/-- The worker that acts on a summary. -/
def DeliveryAct.actor : DeliveryAct → Option Str
  | .claim workerId _ _ _ | .quarantine workerId _ | .mismatch workerId _ | .write workerId _ _
  | .writeRaises workerId | .complete workerId _ _ | .completeRaises workerId | .retry workerId _
  | .abandon workerId => some workerId
  | .call _ _ _ | .remember _ | .expire _ => none

/-- A delivery with the record of its requests and of who embedded each memory. -/
structure Deployment where
  delivery : Delivery
  requests : Str → Option EnqueueArguments
  embedders : MemorySlot → Option Str

namespace Delivery

variable {embedding : Str → Str × Int} {state state' : Delivery}

/-! ## What a step does to summaries, phases and memories -/

/-- A summary after a step was there before, or is the one of a run that succeeds. -/
theorem summary_origin (sound : state.Sound) {act : DeliveryAct}
    (taken : next embedding act state = some state') {id : Str} {summary : OutboxRow}
    (found : state'.outbox.find? id = some summary) :
    (∃ before, state.outbox.find? id = some before ∧ SameSummary before summary) ∨
      ∃ now locked run arguments configuration, act = .call now locked (.succeed run arguments) ∧
        run ∈ state.queue.handed ∧ run.id = id ∧ embeddingParameters run = .ok configuration ∧
        summary = summaryRow now run arguments configuration := by
  have advanced := sound.step taken
  rcases queue_of_next taken with
    ⟨now, locked, operation, answer, db, rfl, received, performed, rfl⟩ | ⟨outbox, same⟩
  · have effect := perform_effect sound.queue.linked performed
    rcases effect.completion with ⟨side, -⟩ | ⟨run, arguments, rfl, rfl, -⟩
    · replace found : db.side.find? id = some summary := found
      rw [side] at found
      exact Or.inl ⟨summary, found, SameSummary.refl summary⟩
    · obtain ⟨configuration, -, embedded, -, -, -, after⟩ := sound.summarized effect
      replace found : db.side.find? id = some summary := found
      rw [after] at found
      split at found
      · next own =>
        exact Or.inr ⟨now, locked, run, arguments, configuration, rfl, received, own.symm,
          embedded, (Option.some.inj found).symm⟩
      · exact Or.inl ⟨summary, found, SameSummary.refl summary⟩
  · obtain ⟨row, stored, belongs⟩ := advanced.sound.belongs id summary found
    have ran : state.queue.db.run? id = some row := by
      rw [same] at stored
      exact stored
    obtain ⟨before, earlier⟩ :=
      Option.isSome_iff_exists.mp (sound.owed id row ran belongs.status)
    obtain ⟨after, later, kept⟩ := advanced.kept id before earlier
    obtain rfl : after = summary := Option.some.inj (later.symm.trans found)
    exact Or.inl ⟨before, earlier, kept⟩

/-- A worker that has written a summary has its configuration. -/
def Matched (embedding : Str → Str × Int) (state : Delivery) : Prop :=
  ∀ workerId item, state.phases workerId = .written item →
    matchesEmbedding (embedding workerId) item = true

theorem matchesEmbedding_iff (configuration : Str × Int) (item : SummaryOutboxItem) :
    matchesEmbedding configuration item = true ↔
      configuration = (item.embeddingModel, item.embeddingDim) := by
  obtain ⟨model, dim⟩ := configuration
  simp only [matchesEmbedding, Bool.and_eq_true, decide_eq_true_eq, Prod.mk.injEq]
  exact and_congr eq_comm eq_comm

/-- A worker enters a phase, and a written one only with its item's configuration. -/
theorem Matched.enter (matched : Matched embedding state) {other : Delivery}
    (same : other.phases = state.phases) (workerId : Str) {phase : DeliveryPhase}
    (fits : ∀ item, phase = .written item → matchesEmbedding (embedding workerId) item = true) :
    Matched embedding (other.enter workerId phase) := by
  intro acting item written
  simp only [Delivery.enter, Function.update_apply, same] at written
  split at written
  · next own => exact own ▸ fits item written
  · exact matched acting item written

theorem Matched.step (matched : Matched embedding state) {act : DeliveryAct}
    (taken : next embedding act state = some state') : Matched embedding state' := by
  cases taken_of_next taken with
  | call | remember | expire => exact matched
  | claimed | poisoned | quarantine | writeRaises | completeRaises | abandon =>
    exact matched.enter rfl _ (by simp)
  | mismatch | retry => exact matched.enter (phases_reschedule _ _ _) _ (by simp)
  | @write workerId memoryId delivered item phase same =>
    refine matched.enter rfl _ (fun written entered => ?_)
    cases delivered with
    | true => exact DeliveryPhase.written.inj entered ▸ same
    | false => cases entered
  | @complete workerId now delivered item phase =>
    refine matched.enter rfl _ (fun written entered => ?_)
    cases delivered <;> cases entered

/-- A memory that stems from a run and is new was written by a worker with the
configuration of the item it delivers. -/
theorem memory_origin {act : DeliveryAct} (taken : next embedding act state = some state')
    {stored : MemoryItem} (member : stored ∈ state'.memory.rows) {runId : Str}
    (source : stored.sourceRunId = some runId) :
    stored ∈ state.memory.rows ∨
      ∃ workerId memoryId delivered item, act = .write workerId memoryId delivered ∧
        state.phases workerId = .claimed item ∧
        matchesEmbedding (embedding workerId) item = true ∧ stored = item.memory memoryId ∧
        state.memory.find? (item.memory memoryId).slot = none := by
  cases taken_of_next taken with
  | call | claimed | poisoned | quarantine | writeRaises | complete | completeRaises | abandon =>
    exact Or.inl member
  | mismatch | retry =>
    simp only [Delivery.enter, memory_reschedule] at member
    exact Or.inl member
  | @write workerId memoryId delivered item phase same =>
    rcases mem_insertMemory member with ⟨written, free⟩ | early
    · exact Or.inr ⟨workerId, memoryId, delivered, item, rfl, phase, same, written, free⟩
    · exact Or.inl early
  | @remember item own =>
    rcases mem_insertMemory member with ⟨rfl, -⟩ | early
    · cases own.symm.trans source
    · exact Or.inl early
  | @expire now => exact Or.inl (List.mem_filter.mp member).1

/-- The summary under the id is there and not completed. -/
def Pending (outbox : Outbox) (id : Str) : Prop :=
  ∃ summary, outbox.find? id = some summary ∧ summary.completedAt = none

theorem Pending.update {outbox : Outbox} {id runId : Str} (pending : Pending outbox id)
    {guard : OutboxRow → Bool} {change : OutboxRow → OutboxRow}
    (keeps : ∀ row, (change row).runId = row.runId)
    (stays : id = runId → ∀ row, (change row).completedAt = row.completedAt) :
    Pending (outbox.update runId guard change).2 id := by
  obtain ⟨summary, found, uncompleted⟩ := pending
  rw [Pending, Table.find?_update outbox runId id keeps, found]
  refine ⟨_, rfl, ?_⟩
  beta_reduce
  split
  · next changed => exact (stays changed.1 summary).trans uncompleted
  · exact uncompleted

theorem Pending.reschedule {id : Str} (pending : Pending state.outbox id) (now : Timestamp)
    (item : SummaryOutboxItem) (publicError : Str) :
    Pending (state.reschedule now item publicError).outbox id := by
  rcases state.reschedule_cases now item publicError with ⟨delay, same⟩ | same
  · rw [same]
    exact pending.update (fun _ => rfl) (fun _ _ => rfl)
  · rwa [same]

theorem Pending.claim {id : Str} (pending : Pending state.outbox id) {workerId : Str}
    {now : Timestamp} {locked : Str → Bool} {staleSeconds : Int} {row : OutboxRow} {outbox : Outbox}
    (claimed : claimSummaryRow now locked workerId staleSeconds state.outbox = some (row, outbox)) :
    Pending outbox id := by
  obtain ⟨candidate, -, claimable, rfl, rfl⟩ := claimSummaryRow_spec claimed
  obtain ⟨summary, found, uncompleted⟩ := pending
  rw [Pending, Table.find?_put]
  split
  · exact ⟨_, rfl, ((summaryClaimable_iff _ _ _).mp claimable).1⟩
  · exact ⟨summary, found, uncompleted⟩

/-- Only a worker that has written a summary completes it, if it can be delivered. -/
theorem Pending.step {id : Str} (pending : Pending state.outbox id) (sound : state.Sound)
    {summary : OutboxRow} (found : state.outbox.find? id = some summary)
    (deliverable : summary.Deliverable) {act : DeliveryAct}
    (apart : ∀ workerId item, act.actor = some workerId →
      state.phases workerId = .written item → item.runId ≠ id)
    (taken : next embedding act state = some state') : Pending state'.outbox id := by
  have phases := sound.phases
  cases taken_of_next taken with
  | call received performed =>
    have effect := perform_effect sound.queue.linked performed
    rcases effect.completion with ⟨side, -⟩ | ⟨run, arguments, rfl, rfl, -⟩
    · obtain ⟨summary, stored, uncompleted⟩ := pending
      exact ⟨summary, (congrArg (Table.find? · id) side).trans stored, uncompleted⟩
    · obtain ⟨_, -, -, -, -, fresh, after⟩ := sound.summarized effect
      obtain ⟨summary, stored, uncompleted⟩ := pending
      refine ⟨summary, (after id).trans ?_, uncompleted⟩
      rw [if_neg, stored]
      rintro rfl
      cases fresh.symm.trans stored
  | claimed selected | poisoned selected => exact pending.claim selected
  | @quarantine workerId runId now phase =>
    refine pending.update (fun _ => rfl) (fun own => ?_)
    have fits := phases workerId
    rw [phase] at fits
    obtain ⟨row, stored, undeliverable⟩ := fits
    obtain rfl : row = summary := Option.some.inj (stored.symm.trans (own ▸ found))
    exact absurd deliverable undeliverable
  | mismatch | retry => exact pending.reschedule _ _ _
  | write | writeRaises | completeRaises | abandon | remember | expire => exact pending
  | @complete workerId now delivered item phase =>
    exact pending.update (fun _ => rfl) (fun own => absurd own.symm (apart workerId item rfl phase))

end Delivery

namespace Deployment

def initial : Deployment := ⟨Delivery.initial, fun _ => none, fun _ => none⟩

/-- An enqueue that commits is recorded. -/
def requestsAfter (act : DeliveryAct) (requests : Str → Option EnqueueArguments) :
    Str → Option EnqueueArguments :=
  match act with
  | .call _ _ (.enqueue runId request) => Function.update requests runId.text (some request)
  | _ => requests

/-- A memory that is stored was embedded by the worker that wrote it. -/
def embeddersAfter (act : DeliveryAct) (delivery : Delivery)
    (embedders : MemorySlot → Option Str) : MemorySlot → Option Str :=
  match act with
  | .write workerId memoryId _ =>
    match delivery.phases workerId with
    | .claimed item =>
      if (delivery.memory.find? (item.memory memoryId).slot).isNone then
        Function.update embedders (item.memory memoryId).slot (some workerId)
      else embedders
    | _ => embedders
  | _ => embedders

/-- A step of the delivery, with its record. -/
def next (embedding : Str → Str × Int) (act : DeliveryAct) (state : Deployment) :
    Option Deployment :=
  (Delivery.next embedding act state.delivery).map (fun delivery =>
    { delivery := delivery
      requests := requestsAfter act state.requests
      embedders := embeddersAfter act state.delivery state.embedders })

/-- One step, by anybody that `allowed` lets act. -/
def StepBy (embedding : Str → Str × Int) (allowed : DeliveryAct → Prop)
    (state state' : Deployment) : Prop :=
  ∃ act, allowed act ∧ next embedding act state = some state'

def Step (embedding : Str → Str × Int) : Deployment → Deployment → Prop :=
  StepBy embedding (fun _ => True)

def Reachable (embedding : Str → Str × Int) (state : Deployment) : Prop :=
  Runs (Step embedding) initial state

/-! ## The invariant -/

/-- Runs hold the requests on record, summaries and memories the configurations that
these ask for. -/
structure Sound (embedding : Str → Str × Int) (state : Deployment) : Prop where
  delivery : state.delivery.Sound
  traced : state.delivery.queue.Traced
  matched : Delivery.Matched embedding state.delivery
  requests : ∀ id row, state.delivery.queue.db.run? id = some row →
    ∃ request, state.requests id = some request ∧ row.EnqueuedBy request
  summaries : ∀ id summary, state.delivery.outbox.find? id = some summary →
    ∃ request, state.requests id = some request ∧ request.Embeds summary.configuration
  embedded : ∀ item ∈ state.delivery.memory.rows, ∀ runId, item.sourceRunId = some runId →
    ∃ workerId summary, state.embedders item.slot = some workerId ∧
      state.delivery.outbox.find? runId = some summary ∧
      embedding workerId = summary.configuration

section Steps

variable {embedding : Str → Str × Int} {state state' : Deployment}

theorem Sound.initial : Sound embedding Deployment.initial where
  delivery := Delivery.Sound.initial
  traced := QueueState.traced_initial
  matched := fun _ _ written => by cases written
  requests _ _ found := by cases found
  summaries _ _ found := by cases found
  embedded _ member := absurd member List.not_mem_nil

/-- The request of a run that exists stays recorded. -/
theorem requestsAfter_eq {delivery delivery' : Delivery} {act : DeliveryAct}
    (taken : Delivery.next embedding act delivery = some delivery') {id : Str} {row : RunRow}
    (found : delivery.queue.db.run? id = some row) (requests : Str → Option EnqueueArguments) :
    requestsAfter act requests id = requests id := by
  unfold requestsAfter
  split
  · next now locked runId request =>
    obtain ⟨-, answer, db, performed, -⟩ := Delivery.next_call taken
    have fresh := (stored_of_enqueue performed).2.1
    refine Function.update_of_ne ?_ _ _
    rintro rfl
    cases fresh.symm.trans found
  · rfl

/-- Who embedded a memory that is stored stays recorded. -/
theorem embeddersAfter_eq {delivery : Delivery} {item : MemoryItem}
    (stored : item ∈ delivery.memory.rows) (act : DeliveryAct)
    (embedders : MemorySlot → Option Str) :
    embeddersAfter act delivery embedders item.slot = embedders item.slot := by
  have taken := Table.find?_of_mem stored
  cases act with
  | write workerId memoryId delivered =>
    simp only [embeddersAfter]
    cases delivery.phases workerId with
    | claimed claimed =>
      by_cases free : (delivery.memory.find? (claimed.memory memoryId).slot).isNone = true
      · simp only [free, ↓reduceIte]
        refine Function.update_of_ne ?_ _ _
        intro same
        rw [← same, taken] at free
        cases free
      · simp only [free, Bool.false_eq_true, ↓reduceIte]
    | idle | poisoned | written | undelivered => rfl
  | call | claim | quarantine | mismatch | writeRaises | complete | completeRaises | retry | abandon
  | remember | expire => rfl

theorem Sound.step (sound : Sound embedding state) {act : DeliveryAct}
    (taken : next embedding act state = some state') : Sound embedding state' := by
  obtain ⟨delivery, moved, rfl⟩ := Option.map_eq_some_iff.mp taken
  have advanced := sound.delivery.step moved
  have traced := Delivery.traced_step sound.delivery sound.traced moved
  refine ⟨advanced.sound, traced, sound.matched.step moved, fun id row found => ?_,
    fun id summary found => ?_, fun item member runId source => ?_⟩
  · rcases Delivery.queue_of_next moved with
      ⟨now, locked, operation, answer, db, rfl, -, performed, rfl⟩ | ⟨outbox, same⟩
    · have effect := perform_effect sound.delivery.queue.linked performed
      rcases effect.origin found with ⟨before, earlier, same⟩ | ⟨own, request, rfl, rfl, enqueued⟩
      · obtain ⟨request, recorded, enqueued⟩ := sound.requests id before earlier
        exact ⟨request, (requestsAfter_eq moved earlier _).trans recorded, enqueued.transfer same⟩
      · exact ⟨request, Function.update_self _ _ _, enqueued⟩
    · rw [same] at found
      obtain ⟨request, recorded, enqueued⟩ := sound.requests id row found
      exact ⟨request, (requestsAfter_eq moved found _).trans recorded, enqueued⟩
  · rcases Delivery.summary_origin sound.delivery moved found with ⟨before, earlier, same⟩ |
      ⟨now, locked, run, arguments, configuration, rfl, handed, rfl, embedded, rfl⟩
    · obtain ⟨request, recorded, embeds⟩ := sound.summaries id before earlier
      obtain ⟨row, stored, -⟩ := sound.delivery.belongs id before earlier
      refine ⟨request, (requestsAfter_eq moved stored _).trans recorded, ?_⟩
      rwa [OutboxRow.configuration, same.embeddingModel, same.embeddingDim]
    · obtain ⟨row, stored, decoded⟩ := sound.traced.claims run handed
      obtain ⟨request, recorded, enqueued⟩ := sound.requests run.id row stored
      refine ⟨request, recorded, ?_⟩
      rw [RunStore.EnqueueArguments.Embeds, ← (decoded.carries enqueued).modelConfig]
      exact embeddingParameters_ok embedded
  · rcases Delivery.memory_origin moved member source with early |
      ⟨workerId, memoryId, delivered, claimed, rfl, phase, same, rfl, free⟩
    · obtain ⟨workerId, summary, recorded, before, equal⟩ :=
        sound.embedded item early runId source
      obtain ⟨summary', later, kept⟩ := advanced.kept runId summary before
      refine ⟨workerId, summary', (embeddersAfter_eq early act _).trans recorded, later, ?_⟩
      rw [equal, OutboxRow.configuration, OutboxRow.configuration, kept.embeddingModel,
        kept.embeddingDim]
    · obtain rfl : claimed.runId = runId := Option.some.inj source
      have fits := sound.delivery.phases workerId
      rw [phase] at fits
      obtain ⟨row, found, of⟩ := fits
      obtain ⟨row', later, kept⟩ := advanced.kept _ row found
      refine ⟨workerId, row', ?_, later, ?_⟩
      · simp only [embeddersAfter, phase, free, Option.isNone_none, ↓reduceIte,
          Function.update_self]
      · rw [(Delivery.matchesEmbedding_iff _ _).mp same, of.embeddingModel, of.embeddingDim,
          OutboxRow.configuration, kept.embeddingModel, kept.embeddingDim]

theorem sound_of_reachable (reached : Reachable embedding state) : Sound embedding state :=
  Runs.keeps reached (fun _ _ sound ⟨_, _, taken⟩ => sound.step taken) Sound.initial

/-! ## What workers of another configuration leave -/

/-- A step of nobody whose configuration the request asks for. -/
def Foreign (embedding : Str → Str × Int) (request : EnqueueArguments) (act : DeliveryAct) : Prop :=
  ∀ workerId, act.actor = some workerId → ¬ request.Embeds (embedding workerId)

/-- The summary is neither completed nor quarantined. Any worker claims it, unless an
earlier one is waiting, as soon as it is due and not leased; and a worker with the
request's configuration then goes on to write it. -/
structure Awaits (embedding : Str → Str × Int) (state : Deployment) (request : EnqueueArguments)
    (summary : OutboxRow) : Prop where
  stored : state.delivery.outbox.find? summary.runId = some summary
  pending : summary.completedAt = none
  accepted : summary.lastError ≠ some invalidConfiguration
  claimable : ∀ now staleSeconds, summary.availableAt ≤ now →
    (∀ claimedAt, summary.claimedAt = some claimedAt → claimedAt + seconds staleSeconds < now) →
    summaryClaimable now staleSeconds summary = true ∧
      ∀ workerId locked, locked summary.runId = false → ∃ candidate,
        summaryOrder candidate summary = true ∧
        claimSummaryRow now locked workerId staleSeconds state.delivery.outbox =
          some (claimedSummary now workerId candidate,
            state.delivery.outbox.put (claimedSummary now workerId candidate))
  matching : ∀ workerId now, request.Embeds (embedding workerId) → ∃ item,
    decodeSummary (claimedSummary now workerId summary).returning workerId = .ok item ∧
      Delivery.matchesEmbedding (embedding workerId) item = true

/-- A request asks for one configuration. -/
theorem embeds_unique {request : EnqueueArguments} {first second : Str × Int}
    (one : request.Embeds first) (other : request.Embeds second) : first = second := by
  obtain ⟨model, dim⟩ := one
  rw [other.1] at model
  rw [other.2] at dim
  exact (Prod.ext (ModelValue.text.inj (Option.some.inj model))
    (ModelValue.number.inj (Option.some.inj dim))).symm

/-- A pending summary that can be delivered awaits a worker of its configuration. -/
theorem Sound.awaits (sound : Sound embedding state) {id : Str} {summary : OutboxRow}
    (found : state.delivery.outbox.find? id = some summary) (deliverable : summary.Deliverable)
    (pending : summary.completedAt = none) {request : EnqueueArguments}
    (recorded : state.requests id = some request) : Awaits embedding state request summary := by
  obtain rfl := Table.find?_key found
  refine ⟨found, pending, fun rejected => (sound.delivery.settled _ _ found).rejected rejected
    deliverable, fun now staleSeconds available stale => ?_, fun workerId now embeds => ?_⟩
  · have claimable : summaryClaimable now staleSeconds summary = true :=
      (summaryClaimable_iff _ _ _).mpr ⟨pending, available, fun claimedAt held =>
        lt_sub_iff_add_lt.mpr (stale claimedAt held)⟩
    exact ⟨claimable, fun workerId locked free =>
      claimSummaryRow_of_claimable workerId found claimable free⟩
  · have same := claimedSummary_same now workerId summary
    obtain ⟨item, decoded⟩ := (same.deliverable.mpr deliverable).decodes workerId
    refine ⟨item, decoded, (Delivery.matchesEmbedding_iff _ _).mpr ?_⟩
    have of := ((decodeSummary_ok_iff _ _ _).mp decoded).1
    obtain ⟨request', recorded', asked⟩ := sound.summaries _ _ found
    obtain rfl : request' = request := Option.some.inj (recorded'.symm.trans recorded)
    rw [embeds_unique embeds asked, of.embeddingModel, of.embeddingDim]
    rfl

/-- No step of a worker with another configuration completes a summary. -/
theorem Sound.foreign_step (sound : Sound embedding state) {id : Str} {summary : OutboxRow}
    (found : state.delivery.outbox.find? id = some summary) (deliverable : summary.Deliverable)
    (pending : summary.completedAt = none) {request : EnqueueArguments}
    (recorded : state.requests id = some request) {act : DeliveryAct}
    (foreign : Foreign embedding request act) (taken : next embedding act state = some state') :
    ∃ summary', state'.delivery.outbox.find? id = some summary' ∧ SameSummary summary summary' ∧
      summary'.completedAt = none ∧ state'.requests id = some request := by
  obtain ⟨delivery, moved, rfl⟩ := Option.map_eq_some_iff.mp taken
  have apart : ∀ workerId item, act.actor = some workerId →
      state.delivery.phases workerId = .written item → item.runId ≠ id := by
    rintro workerId item acts phase rfl
    have fits := sound.delivery.phases workerId
    rw [phase] at fits
    obtain ⟨row, stored, of, -⟩ := fits
    obtain rfl : row = summary := Option.some.inj (stored.symm.trans found)
    obtain ⟨request', recorded', asked⟩ := sound.summaries _ _ found
    obtain rfl : request' = request := Option.some.inj (recorded'.symm.trans recorded)
    refine foreign workerId acts ?_
    rwa [(Delivery.matchesEmbedding_iff _ _).mp (sound.matched workerId item phase),
      of.embeddingModel, of.embeddingDim]
  have waiting : Delivery.Pending state.delivery.outbox id := ⟨summary, found, pending⟩
  obtain ⟨summary', later, uncompleted⟩ :=
    waiting.step sound.delivery found deliverable apart moved
  obtain ⟨row, after, same⟩ := (sound.delivery.step moved).kept id summary found
  obtain rfl : row = summary' := Option.some.inj (after.symm.trans later)
  obtain ⟨run, ran, -⟩ := sound.delivery.belongs id summary found
  exact ⟨row, later, same, uncompleted, (requestsAfter_eq moved ran _).trans recorded⟩

/-- However long workers with another configuration act, the summary awaits one with
its own. -/
theorem Sound.foreign_runs (sound : Sound embedding state) {id : Str} {summary : OutboxRow}
    (found : state.delivery.outbox.find? id = some summary) (deliverable : summary.Deliverable)
    (pending : summary.completedAt = none) {request : EnqueueArguments}
    (recorded : state.requests id = some request)
    (run : Runs (StepBy embedding (Foreign embedding request)) state state') :
    ∃ summary', SameSummary summary summary' ∧ Awaits embedding state' request summary' := by
  obtain ⟨soundLater, summary', later, same, uncompleted, recordedLater⟩ :=
    @Runs.keeps _ _ _ _ (fun state => Sound embedding state ∧ ∃ summary',
      state.delivery.outbox.find? id = some summary' ∧ SameSummary summary summary' ∧
        summary'.completedAt = none ∧ state.requests id = some request) run
      (fun before after ⟨sound, summary', found, same, pending, recorded⟩
        ⟨act, foreign, taken⟩ => by
        obtain ⟨last, later, sameAgain, uncompleted, recordedLater⟩ := sound.foreign_step found
          (same.deliverable.mpr deliverable) pending recorded foreign taken
        exact ⟨sound.step taken, last, later, same.trans sameAgain, uncompleted, recordedLater⟩)
      ⟨sound, summary, found, SameSummary.refl summary, pending, recorded⟩
  exact ⟨summary', same, soundLater.awaits later (same.deliverable.mpr deliverable) uncompleted
    recordedLater⟩

end Steps

/-- Memories lie in the space that their runs asked for, a run is executed in no other
space, and a summary is left to a worker of its space. -/
structure Separated (embedding : Str → Str × Int) (state : Deployment) : Prop where
  embedded : ∀ item ∈ state.delivery.memory.rows, ∀ runId, item.sourceRunId = some runId →
    ∃ request workerId, state.requests runId = some request ∧
      state.embedders item.slot = some workerId ∧ request.Embeds (embedding workerId)
  executed : ∀ run ∈ state.delivery.queue.handed, ∃ request,
    state.requests run.id = some request ∧
      (request.Embeds (embedding run.workerId) ∨ ∀ backend renderScore now table, ∃ error,
        executeClaim backend renderScore (embedding run.workerId) now run table =
          (.error error, table))
  awaiting : ∀ id summary, state.delivery.outbox.find? id = some summary → summary.Deliverable →
    summary.completedAt = none → ∃ request, state.requests id = some request ∧
      ∀ later, Runs (StepBy embedding (Foreign embedding request)) state later →
        ∃ summary', SameSummary summary summary' ∧ Awaits embedding later request summary'

/-- Workers of different configurations share queue, outbox and memories without mixing
their vector spaces, whoever does what in whatever order. -/
theorem vector_spaces_stay_separate {embedding : Str → Str × Int} {state : Deployment}
    (reached : Reachable embedding state) : Separated embedding state := by
  have sound := sound_of_reachable reached
  refine ⟨fun item member runId source => ?_, fun run handed => ?_,
    fun id summary found deliverable pending => ?_⟩
  · obtain ⟨workerId, summary, recorded, found, equal⟩ := sound.embedded item member runId source
    obtain ⟨request, asked, embeds⟩ := sound.summaries runId summary found
    exact ⟨request, workerId, asked, recorded, equal ▸ embeds⟩
  · obtain ⟨row, stored, decoded⟩ := sound.traced.claims run handed
    obtain ⟨request, recorded, enqueued⟩ := sound.requests run.id row stored
    have asked := (decoded.carries enqueued).modelConfig
    refine ⟨request, recorded, ?_⟩
    by_cases compatible : request.Embeds (embedding run.workerId)
    · exact Or.inl compatible
    · rw [RunStore.EnqueueArguments.Embeds, ← asked] at compatible
      exact Or.inr (executeClaim_foreign compatible)
  · obtain ⟨request, recorded, -⟩ := sound.summaries id summary found
    exact ⟨request, recorded, fun later run =>
      sound.foreign_runs found deliverable pending recorded run⟩

/-- Two workers of different configurations. -/
def mixedEmbedding (workerId : Str) : Str × Int :=
  if workerId = lit "v" then (lit "embed", 8) else (lit "other", 16)

/-- One worker stalls after its write, and the other takes the summary over. -/
def mixedActs : List DeliveryAct :=
  [.call 0 (fun _ => false) (.enqueue smallId (smallRequest 2)),
    .call (seconds 1) (fun _ => false) (.claim (lit "v") 10),
    .call (seconds 2) (fun _ => false) (.succeed (smallClaim (lit "v") 1 2) smallSuccess),
    .claim (lit "v") (seconds 3) (fun _ => false) 60,
    .write (lit "v") (lit "first") true,
    .claim (lit "w") (seconds 100) (fun _ => false) 60]

/-- The half-delivered summary is still pending, its memory lies in the first worker's
space, and all is separate. -/
theorem vector_spaces_stay_separate_mixed : ∃ state,
    (state.delivery.outbox.find? smallId.text).map
      (fun summary => (summary.claimedBy, summary.completedAt)) = some (some (lit "w"), none) ∧
    state.delivery.memory.rows.map (fun item => state.embedders item.slot) = [some (lit "v")] ∧
    Separated mixedEmbedding state := by
  have ran : (replay (next mixedEmbedding) mixedActs initial).map (fun state =>
      ((state.delivery.outbox.find? smallId.text).map
        (fun summary => (summary.claimedBy, summary.completedAt)),
        state.delivery.memory.rows.map (fun item => state.embedders item.slot))) =
      some (some (some (lit "w"), none), [some (lit "v")]) := by rfl
  obtain ⟨state, reached, shown⟩ := Option.map_eq_some_iff.mp ran
  obtain ⟨claimed, embedded⟩ := Prod.mk.inj shown
  exact ⟨state, claimed, embedded, vector_spaces_stay_separate
    (runs_of_replay (fun act _ _ taken => ⟨act, trivial, taken⟩) reached)⟩

end Deployment

end RlmApi
