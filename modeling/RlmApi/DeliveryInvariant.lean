import RlmApi.SummaryDelivery

/-!
# The invariant of summary delivery

Every statement of every worker, and every call of the queue, keeps one invariant:
outbox and runs agree, a completed summary is settled, every memory that stems from
a run is the delivery of its summary, and what a worker still holds in its phase is
true although its lease may be over. No statement changes what a summary says, so
an item decoded under a lost lease is still the item of its row.
-/

namespace RlmApi

open RunStore

/-! ## The invariant -/

/-- The place of a run's summary among the memories. -/
def OutboxRow.slot (row : OutboxRow) : MemorySlot :=
  .summary row.tenantId row.subjectId row.namespaceName row.runId

/-- The memory that a summary is owed is there. -/
def Delivered (memory : MemoryItems) (row : OutboxRow) : Prop :=
  (memory.find? row.slot).isSome = true

/-- The memory is the delivery of the summary. -/
structure MemoryItem.Of (item : MemoryItem) (row : OutboxRow) : Prop where
  deliverable : row.Deliverable
  tenantId : item.tenantId = row.tenantId
  subjectId : item.subjectId = row.subjectId
  namespaceName : item.namespaceName = row.namespaceName
  content : item.content = row.content
  sourceRunId : item.sourceRunId = some row.runId
  expiresAt : item.expiresAt = none

/-- The memory written for an item is the delivery of the item's row. -/
theorem SummaryOutboxItem.Of.memory {item : SummaryOutboxItem} {row : OutboxRow}
    (of : item.Of row) (memoryId : Str) : (item.memory memoryId).Of row :=
  ⟨of.deliverable, of.tenantId, of.subjectId, of.namespaceName, of.content,
    congrArg some of.runId, rfl⟩

/-- A completed summary was delivered, or rejected, and only a summary that cannot
be delivered is rejected. -/
structure Settled (memory : MemoryItems) (row : OutboxRow) : Prop where
  completed : row.completedAt = none ∨ Delivered memory row ∨
    row.lastError = some invalidConfiguration
  rejected : row.lastError = some invalidConfiguration → ¬ row.Deliverable

/-- What a phase says about outbox and memory. -/
def DeliveryPhase.Sound (outbox : Outbox) (memory : MemoryItems) : DeliveryPhase → Prop
  | .idle => True
  | .poisoned runId => ∃ row, outbox.find? runId = some row ∧ ¬ row.Deliverable
  | .claimed item | .undelivered item => ∃ row, outbox.find? item.runId = some row ∧ item.Of row
  | .written item => ∃ row, outbox.find? item.runId = some row ∧ item.Of row ∧ Delivered memory row

/-- A summary belongs to its run. -/
structure OutboxRow.BelongsTo (summary : OutboxRow) (row : RunRow) : Prop where
  status : row.status = .succeeded
  tenantId : summary.tenantId = row.tenantId
  subjectId : summary.subjectId = row.subjectId
  namespaceName : summary.namespaceName = row.namespaceName

/-- The memories with a source are deliveries of summaries. -/
def Remembered (outbox : Outbox) (memory : MemoryItems) : Prop :=
  ∀ item ∈ memory.rows, ∀ runId, item.sourceRunId = some runId →
    ∃ row, outbox.find? runId = some row ∧ item.Of row

namespace Delivery

structure Sound (state : Delivery) : Prop where
  queue : QueueState.Sound state.queue
  claims : ∀ run ∈ state.queue.handed, ∃ row, state.queue.db.run? run.id = some row ∧
    run.ScopeOf row
  owed : ∀ id row, state.queue.db.run? id = some row → row.status = .succeeded →
    (state.outbox.find? id).isSome = true
  belongs : ∀ id summary, state.outbox.find? id = some summary →
    ∃ row, state.queue.db.run? id = some row ∧ summary.BelongsTo row
  settled : ∀ id summary, state.outbox.find? id = some summary → Settled state.memory summary
  remembered : Remembered state.outbox state.memory
  phases : ∀ workerId, (state.phases workerId).Sound state.outbox state.memory

end Delivery

/-! ## Revisions of the outbox -/

/-- A version of a summary that says the same and is settled if it was. -/
def Revision (memory : MemoryItems) (before after : OutboxRow) : Prop :=
  SameSummary before after ∧ (Settled memory before → Settled memory after)

/-- Every row of the outbox is kept in some version, and none is added. -/
def Revised (memory : MemoryItems) (outbox outbox' : Outbox) : Prop :=
  ∀ id, Option.Rel (Revision memory) (outbox.find? id) (outbox'.find? id)

/-- Every row of the outbox is kept in some version. -/
def Kept (outbox outbox' : Outbox) : Prop :=
  ∀ id row, outbox.find? id = some row → ∃ row', outbox'.find? id = some row' ∧ SameSummary row row'

theorem Kept.refl (outbox : Outbox) : Kept outbox outbox :=
  fun _ row found => ⟨row, found, SameSummary.refl row⟩

theorem Kept.trans {first second third : Outbox} (early : Kept first second)
    (late : Kept second third) : Kept first third := by
  intro id row found
  obtain ⟨middle, between, same⟩ := early id row found
  obtain ⟨last, after, sameAgain⟩ := late id middle between
  exact ⟨last, after, same.trans sameAgain⟩

section Revisions

variable {memory memory' : MemoryItems} {outbox outbox' : Outbox}

theorem Revised.refl : Revised memory outbox outbox := by
  intro id
  cases outbox.find? id with
  | none => exact .none
  | some row => exact .some ⟨SameSummary.refl row, fun settled => settled⟩

theorem Revised.kept (revised : Revised memory outbox outbox') : Kept outbox outbox' := by
  intro id row found
  have related := revised id
  rw [found] at related
  cases later : outbox'.find? id with
  | none =>
    rw [later] at related
    cases related
  | some row' =>
    rw [later] at related
    cases related with
    | some revision => exact ⟨row', rfl, revision.1⟩

/-- A row after a revision has a version before it. -/
theorem Revised.earlier (revised : Revised memory outbox outbox') {id : Str} {row' : OutboxRow}
    (found : outbox'.find? id = some row') :
    ∃ row, outbox.find? id = some row ∧ Revision memory row row' := by
  have related := revised id
  rw [found] at related
  cases before : outbox.find? id with
  | none =>
    rw [before] at related
    cases related
  | some row =>
    rw [before] at related
    cases related with
    | some revision => exact ⟨row, rfl, revision⟩

/-- An update of one row whose version is a revision. -/
theorem revised_update {runId : Str} {guard : OutboxRow → Bool} {change : OutboxRow → OutboxRow}
    (keeps : ∀ row, (change row).runId = row.runId)
    (revises : ∀ row, outbox.find? runId = some row → guard row = true →
      Revision memory row (change row)) :
    Revised memory outbox (outbox.update runId guard change).2 := by
  intro id
  rw [Table.find?_update outbox runId id keeps]
  cases found : outbox.find? id with
  | none => exact .none
  | some row =>
    simp only [Option.map_some]
    by_cases changed : id = runId ∧ guard row = true
    · rw [if_pos changed]
      obtain ⟨rfl, passes⟩ := changed
      exact .some (revises row found passes)
    · rw [if_neg changed]
      exact .some ⟨SameSummary.refl row, fun settled => settled⟩

/-- Writing a version of a stored row that is a revision. -/
theorem revised_put {row row' : OutboxRow} (found : outbox.find? row.runId = some row)
    (revision : Revision memory row row') : Revised memory outbox (outbox.put row') := by
  intro id
  rw [Table.find?_put, revision.1.runId]
  by_cases same : row.runId = id
  · rw [if_pos same, ← same, found]
    exact .some revision
  · rw [if_neg same]
    exact Revised.refl id

/-- A phase stays sound while rows are kept and summaries stay delivered. -/
theorem DeliveryPhase.Sound.transfer {phase : DeliveryPhase} (sound : phase.Sound outbox memory)
    (kept : Kept outbox outbox')
    (grows : ∀ row, Delivered memory row → Delivered memory' row) :
    phase.Sound outbox' memory' := by
  cases phase with
  | idle => trivial
  | poisoned runId =>
    obtain ⟨row, found, undeliverable⟩ := sound
    obtain ⟨row', later, same⟩ := kept _ row found
    exact ⟨row', later, fun deliverable => undeliverable (same.deliverable.mp deliverable)⟩
  | claimed item | undelivered item =>
    obtain ⟨row, found, of⟩ := sound
    obtain ⟨row', later, same⟩ := kept _ row found
    exact ⟨row', later, of.transfer same⟩
  | written item =>
    obtain ⟨row, found, of, delivered⟩ := sound
    obtain ⟨row', later, same⟩ := kept _ row found
    refine ⟨row', later, of.transfer same, ?_⟩
    have slot : row'.slot = row.slot := by
      rw [OutboxRow.slot, same.tenantId, same.subjectId, same.namespaceName, same.runId]
      rfl
    have there := grows row delivered
    rwa [Delivered, slot]

/-- Deliveries stay deliveries of the versions of their rows. -/
theorem Remembered.transfer (remembered : Remembered outbox memory) (kept : Kept outbox outbox') :
    Remembered outbox' memory := by
  intro item member runId source
  obtain ⟨row, found, of⟩ := remembered item member runId source
  obtain ⟨row', later, same⟩ := kept _ row found
  exact ⟨row', later, same.deliverable.mpr of.deliverable, of.tenantId.trans same.tenantId.symm,
    of.subjectId.trans same.subjectId.symm, of.namespaceName.trans same.namespaceName.symm,
    of.content.trans same.content.symm, of.sourceRunId.trans (congrArg some same.runId.symm),
    of.expiresAt⟩

end Revisions

namespace Delivery

variable {embedding : Str → Str × Int} {state state' : Delivery}

/-! ## What the statements keep -/

theorem Sound.initial : Delivery.initial.Sound where
  queue := QueueState.sound_initial
  claims _ member := absurd member List.not_mem_nil
  owed _ _ found := by cases found
  belongs _ _ found := by cases found
  settled _ _ found := by cases found
  remembered _ member := absurd member List.not_mem_nil
  phases _ := trivial

/-- Every step keeps the invariant and the summaries. -/
structure Advanced (state state' : Delivery) : Prop where
  sound : state'.Sound
  kept : Kept state.outbox state'.outbox

theorem Sound.stay (sound : state.Sound) : Advanced state state := ⟨sound, Kept.refl _⟩

/-- A worker enters a phase that is sound. -/
theorem Sound.enter (sound : state.Sound) (workerId : Str) {phase : DeliveryPhase}
    (fits : phase.Sound state.outbox state.memory) : (state.enter workerId phase).Sound where
  queue := sound.queue
  claims := sound.claims
  owed := sound.owed
  belongs := sound.belongs
  settled := sound.settled
  remembered := sound.remembered
  phases other := by
    simp only [Delivery.enter, Function.update_apply]
    split
    · exact fits
    · exact sound.phases other

theorem Advanced.enter (advanced : Advanced state state') (workerId : Str)
    {phase : DeliveryPhase} (fits : phase.Sound state'.outbox state'.memory) :
    Advanced state (state'.enter workerId phase) :=
  ⟨advanced.sound.enter workerId fits, advanced.kept⟩

/-- A statement revises the outbox. The queue's record does not look at it. -/
theorem Sound.revise (sound : state.Sound) {outbox : Outbox}
    (revised : Revised state.memory state.outbox outbox) :
    Advanced state (state.withOutbox outbox) where
  kept := revised.kept
  sound.queue := ⟨sound.queue.linked, sound.queue.runs, sound.queue.recovered⟩
  sound.claims := sound.claims
  sound.owed id row found finished := by
    obtain ⟨summary, stored⟩ := Option.isSome_iff_exists.mp (sound.owed id row found finished)
    obtain ⟨later, kept, -⟩ := revised.kept id summary stored
    exact Option.isSome_iff_exists.mpr ⟨later, kept⟩
  sound.belongs id summary found := by
    obtain ⟨before, stored, same, -⟩ := revised.earlier found
    obtain ⟨row, run, status, tenantId, subjectId, namespaceName⟩ := sound.belongs id before stored
    exact ⟨row, run, status, same.tenantId.trans tenantId, same.subjectId.trans subjectId,
      same.namespaceName.trans namespaceName⟩
  sound.settled id summary found := by
    obtain ⟨before, stored, -, settles⟩ := revised.earlier found
    exact settles (sound.settled id before stored)
  sound.remembered := sound.remembered.transfer revised.kept
  sound.phases workerId :=
    (sound.phases workerId).transfer revised.kept (fun _ delivered => delivered)

/-- The memory store grows. -/
theorem Sound.grow (sound : state.Sound) {memory : MemoryItems}
    (grows : ∀ row, Delivered state.memory row → Delivered memory row)
    (remembered : Remembered state.outbox memory) : Sound { state with memory := memory } where
  queue := sound.queue
  claims := sound.claims
  owed := sound.owed
  belongs := sound.belongs
  settled id summary found :=
    ⟨(sound.settled id summary found).completed.imp_right (Or.imp_left (grows summary)),
      (sound.settled id summary found).rejected⟩
  remembered := remembered
  phases workerId := (sound.phases workerId).transfer (Kept.refl _) grows

/-- Writing one memory more. -/
theorem Sound.insert (sound : state.Sound) {item : MemoryItem}
    (of : ∀ runId, item.sourceRunId = some runId →
      ∃ row, state.outbox.find? runId = some row ∧ item.Of row) :
    Advanced state { state with memory := insertMemory item state.memory } := by
  refine ⟨sound.grow (fun row delivered => ?_) (fun stored member runId source => ?_), Kept.refl _⟩
  · rw [Delivered, find?_insertMemory]
    split
    · rfl
    · exact delivered
  · rcases mem_insertMemory member with ⟨rfl, -⟩ | early
    · exact of runId source
    · exact sound.remembered stored early runId source

/-- `retry_summary` leaves a pending row pending. -/
theorem Sound.reschedule (sound : state.Sound) (now : Timestamp) (item : SummaryOutboxItem)
    {publicError : Str} (other : publicError ≠ invalidConfiguration) :
    Advanced state (state.reschedule now item publicError) := by
  rcases state.reschedule_cases now item publicError with ⟨delay, same⟩ | same
  · rw [same]
    refine sound.revise (revised_update (fun _ => rfl) (fun row found leased => ?_))
    have pending : row.completedAt = none := by
      simp only [summaryLeasedBy, Bool.and_eq_true, Option.isNone_iff_eq_none] at leased
      exact leased.1
    exact ⟨retriedSummary_same _ _ _ row, fun _ => ⟨Or.inl pending, fun rejected =>
      absurd (Option.some.inj rejected) other⟩⟩
  · rw [same]
    exact sound.stay

/-- `claim_summary` leaves the claimed row pending, and its decoding says whether it
can be delivered. -/
theorem Sound.claim (sound : state.Sound) {workerId : Str} {now : Timestamp}
    {locked : Str → Bool} {staleSeconds : Int} {row : OutboxRow} {outbox : Outbox}
    (claimed : claimSummaryRow now locked workerId staleSeconds state.outbox =
      some (row, outbox)) :
    Advanced state (state.withOutbox outbox) ∧ outbox.find? row.runId = some row := by
  obtain ⟨candidate, found, claimable, rfl, rfl⟩ := claimSummaryRow_spec claimed
  have pending := ((summaryClaimable_iff _ _ _).mp claimable).1
  have same := claimedSummary_same now workerId candidate
  refine ⟨sound.revise (revised_put found ⟨same, fun settled => ⟨Or.inl pending,
    fun rejected deliverable => settled.rejected rejected (same.deliverable.mp deliverable)⟩⟩), ?_⟩
  exact Table.find?_put_self _ _

/-- `_quarantine_summary_claim` completes only a row that cannot be decoded. -/
theorem Sound.quarantine (sound : state.Sound) {runId : Str} (workerId : Str) (now : Timestamp)
    (poisoned : ∃ row, state.outbox.find? runId = some row ∧ ¬ row.Deliverable) :
    Advanced state
      (state.withOutbox (quarantineSummaryClaim now runId workerId state.outbox)) := by
  obtain ⟨row, found, undeliverable⟩ := poisoned
  refine sound.revise (revised_update (fun _ => rfl) (fun other stored _ => ?_))
  obtain rfl : other = row := Option.some.inj (stored.symm.trans found)
  have same := quarantinedSummary_same now other
  exact ⟨same, fun _ => ⟨Or.inr (Or.inr rfl), fun _ deliverable =>
    undeliverable (same.deliverable.mp deliverable)⟩⟩

/-- `complete_summary` completes only a row whose memory is written. -/
theorem Sound.complete (sound : state.Sound) (now : Timestamp) {item : SummaryOutboxItem}
    (written : ∃ row, state.outbox.find? item.runId = some row ∧ item.Of row ∧
      Delivered state.memory row) :
    Advanced state (state.withOutbox (completeSummary now item state.outbox).2) := by
  obtain ⟨row, found, -, delivered⟩ := written
  refine sound.revise (revised_update (fun _ => rfl) (fun other stored _ => ?_))
  obtain rfl : other = row := Option.some.inj (stored.symm.trans found)
  exact ⟨completedSummary_same now other, fun _ => ⟨Or.inr (Or.inl delivered),
    by simp [completedSummary]⟩⟩

/-- A success that commits leaves the run with the summary it proposed, and all
other summaries as they are. -/
theorem Sound.summarized (sound : state.Sound) {now : Timestamp} {run : ClaimedRun}
    {arguments : SucceedArguments} {db : Database}
    (performed : Performed now (.succeed run arguments) (.succeeded true) state.queue.db db) :
    ∃ embedding row, embeddingParameters run = .ok embedding ∧
      state.queue.db.run? run.id = some row ∧
      db.run? run.id = some (succeededVersion now arguments row) ∧
      state.outbox.find? run.id = none ∧
      ∀ id, db.side.find? id = if id = run.id
        then some (summaryRow now run arguments embedding) else state.outbox.find? id := by
  obtain ⟨embedding, row, embedded, stored, leased, written, side⟩ := performed.success
  have unsummarized : state.outbox.find? run.id = none := by
    cases found : state.outbox.find? run.id with
    | none => rfl
    | some summary =>
      obtain ⟨other, stored', of⟩ := sound.belongs run.id summary found
      obtain rfl : other = row := Option.some.inj (stored'.symm.trans stored)
      exact RunStatus.noConfusion (of.status.symm.trans ((leasedBy_iff _ _).mp leased).1)
  refine ⟨embedding, row, embedded, stored, written, unsummarized, fun id => ?_⟩
  rw [side, upsertSummary, show state.queue.db.side = state.outbox from rfl,
    show (summaryRow now run arguments embedding).runId = run.id from rfl, unsummarized,
    Table.find?_put]
  exact if_congr eq_comm rfl rfl

/-- A call of the queue keeps the invariant, and the outbox gains a row at most. -/
theorem Sound.call (sound : state.Sound) {now : Timestamp} {locked : Str → Bool}
    {operation : Operation} {answer : Answer} {db : Database}
    (received : Received state.queue operation)
    (performed : perform now locked operation state.queue.db = .ok (answer, db)) :
    Advanced state { state with queue := state.queue.after now operation answer db } := by
  have effect := perform_effect sound.queue.linked performed
  have step : QueueState.Step QueueState.anyCall state.queue
      (state.queue.after now operation answer db) := .call trivial performed
  have queue := QueueState.sound_step sound.queue step
  have final := (QueueState.progressed_step sound.queue step).final
  have claims : ∀ run ∈ state.queue.handed ++ answer.handed,
      ∃ row, db.run? run.id = some row ∧ run.ScopeOf row := by
    intro run member
    rcases List.mem_append.mp member with old | new
    · obtain ⟨row, found, scope⟩ := sound.claims run old
      obtain ⟨row', later, same⟩ := effect.sameRequest found
      exact ⟨row', later, scope.tenantId.trans same.tenantId.symm,
        scope.subjectId.trans same.subjectId.symm,
        scope.namespaceName.trans same.namespaceName.symm⟩
    · exact effect.scope new
  have belongs : ∀ id summary, state.outbox.find? id = some summary →
      ∃ row, db.run? id = some row ∧ summary.BelongsTo row := by
    intro id summary found
    obtain ⟨row, stored, of⟩ := sound.belongs id summary found
    exact ⟨row, (final id row stored (Or.inl of.status)).1, of⟩
  rcases effect.completion with ⟨same, others⟩ | ⟨run, arguments, rfl, rfl, others⟩
  · have outbox : db.side = state.outbox := same
    refine ⟨⟨queue, claims, fun id row found finished => ?_, ?_, ?_, ?_, ?_⟩, ?_⟩
    · show (db.side.find? id).isSome = true
      rw [outbox]
      exact sound.owed id row (others id row found finished) finished
    all_goals simp only [Delivery.outbox, QueueState.after, outbox]
    · exact belongs
    · exact sound.settled
    · exact sound.remembered
    · exact sound.phases
    · exact Kept.refl _
  · obtain ⟨embedding, row, -, stored, written, unsummarized, after⟩ := sound.summarized effect
    have kept : Kept state.outbox db.side := by
      intro id summary found
      have other : id ≠ run.id := by
        rintro rfl
        cases unsummarized.symm.trans found
      exact ⟨summary, by rw [after, if_neg other, found], SameSummary.refl summary⟩
    obtain ⟨own, found, scope⟩ := sound.claims run received
    obtain rfl : own = row := Option.some.inj (found.symm.trans stored)
    refine ⟨⟨queue, claims, fun id other present finished => ?_, fun id summary present => ?_,
      fun id summary present => ?_, sound.remembered.transfer kept,
      fun workerId => (sound.phases workerId).transfer kept (fun _ delivered => delivered)⟩, kept⟩
    · show (db.side.find? id).isSome = true
      rw [after]
      split
      · rfl
      · next distinct =>
        exact sound.owed id other (others id other distinct present finished) finished
    · replace present : db.side.find? id = some summary := present
      rw [after] at present
      split at present
      · next same =>
        subst same
        obtain rfl := Option.some.inj present
        exact ⟨_, written, rfl, scope.tenantId, scope.subjectId, scope.namespaceName⟩
      · exact belongs id summary present
    · replace present : db.side.find? id = some summary := present
      rw [after] at present
      split at present
      · obtain rfl := Option.some.inj present
        exact ⟨Or.inl rfl, by simp [summaryRow]⟩
      · exact sound.settled id summary present

/-- Writing an item's memory delivers the item's row, whether or not the memory was
there before. -/
theorem Sound.write (sound : state.Sound) {item : SummaryOutboxItem}
    (claimed : ∃ row, state.outbox.find? item.runId = some row ∧ item.Of row) (memoryId : Str) :
    Advanced state { state with memory := insertMemory (item.memory memoryId) state.memory } ∧
      ∃ row, state.outbox.find? item.runId = some row ∧ item.Of row ∧
        Delivered (insertMemory (item.memory memoryId) state.memory) row := by
  obtain ⟨row, found, of⟩ := claimed
  refine ⟨sound.insert (fun runId source => ?_), row, found, of, ?_⟩
  · obtain rfl : item.runId = runId := Option.some.inj source
    exact ⟨row, found, of.memory memoryId⟩
  · have slot : row.slot = (item.memory memoryId).slot := by
      rw [OutboxRow.slot, ← of.tenantId, ← of.subjectId, ← of.namespaceName, ← of.runId]
      rfl
    rw [Delivered, find?_insertMemory, if_pos slot]
    rfl

/-- A summary does not expire. -/
theorem Sound.expire (sound : state.Sound) (now : Timestamp) :
    Sound { state with memory :=
      state.memory.filter (fun item => item.expiresAt.all (fun time => now ≤ time)) } := by
  refine sound.grow (fun row delivered => ?_) (fun item member => ?_)
  · obtain ⟨item, found⟩ := Option.isSome_iff_exists.mp delivered
    have source : ∃ runId, item.sourceRunId = some runId := by
      have slot := Table.find?_key found
      unfold MemoryItem.slot at slot
      split at slot
      · next runId source => exact ⟨runId, source⟩
      · cases slot
    obtain ⟨runId, source⟩ := source
    obtain ⟨summary, -, of⟩ := sound.remembered item (Table.find?_mem found) runId source
    rw [Delivered, Table.find?_filter found (by simp [of.expiresAt])]
    rfl
  · exact sound.remembered item (List.mem_filter.mp member).1

/-- Every step, of anybody, keeps the invariant and the summaries. -/
theorem Sound.step (sound : state.Sound) {act : DeliveryAct}
    (taken : next embedding act state = some state') : Advanced state state' := by
  have phases := sound.phases
  cases taken_of_next taken with
  | call received performed => exact sound.call received performed
  | @claimed workerId now locked staleSeconds row outbox item selected decoded =>
    obtain ⟨advanced, found⟩ := sound.claim selected
    have of := ((decodeSummary_ok_iff row workerId item).mp decoded).1
    exact advanced.enter workerId ⟨row, of.runId ▸ found, of⟩
  | @poisoned workerId now locked staleSeconds row outbox error selected undecoded =>
    obtain ⟨advanced, found⟩ := sound.claim selected
    refine advanced.enter workerId ⟨row, found, fun deliverable => ?_⟩
    obtain ⟨item, decoded⟩ := deliverable.decodes workerId
    cases undecoded.symm.trans decoded
  | @quarantine workerId runId now phase =>
    have fits := phases workerId
    rw [phase] at fits
    exact (sound.quarantine workerId now fits).enter workerId trivial
  | @mismatch workerId now item phase differs =>
    exact (sound.reschedule now _ (by decide)).enter workerId trivial
  | @write workerId memoryId delivered item phase same =>
    have fits := phases workerId
    rw [phase] at fits
    obtain ⟨advanced, row, found, of, there⟩ := sound.write fits memoryId
    refine advanced.enter workerId ?_
    cases delivered with
    | true => exact ⟨row, found, of, there⟩
    | false => exact ⟨row, found, of⟩
  | @writeRaises workerId item phase =>
    have fits := phases workerId
    rw [phase] at fits
    exact sound.stay.enter workerId fits
  | @complete workerId now delivered item phase =>
    have fits := phases workerId
    rw [phase] at fits
    have advanced := sound.complete now fits
    refine advanced.enter workerId ?_
    cases delivered with
    | true => trivial
    | false =>
      obtain ⟨row, found, of, -⟩ := fits
      obtain ⟨row', later, same⟩ := advanced.kept _ row found
      exact ⟨row', later, of.transfer same⟩
  | @completeRaises workerId item phase =>
    have fits := phases workerId
    rw [phase] at fits
    obtain ⟨row, found, of, -⟩ := fits
    exact sound.stay.enter workerId ⟨row, found, of⟩
  | @retry workerId now item phase =>
    exact (sound.reschedule now _ (by decide)).enter workerId trivial
  | @abandon workerId => exact sound.stay.enter workerId trivial
  | @remember item own =>
    refine sound.insert (fun runId source => ?_)
    cases own.symm.trans source
  | @expire now => exact ⟨sound.expire now, Kept.refl _⟩

/-! ## Whole runs -/

theorem Sound.runs (sound : state.Sound) (run : Runs (Step embedding) state state') :
    state'.Sound :=
  Runs.keeps run (fun _ _ sound ⟨_, taken⟩ => (sound.step taken).sound) sound

theorem sound_of_reachable (reached : Reachable embedding state) : state.Sound :=
  Sound.initial.runs reached

theorem kept_of_runs (sound : state.Sound) (run : Runs (Step embedding) state state') :
    Kept state.outbox state'.outbox :=
  @Runs.relates _ _ _ _ Sound (fun before after => Kept before.outbox after.outbox) run
    (fun _ _ sound ⟨_, taken⟩ => (sound.step taken).sound) sound (fun _ => Kept.refl _) Kept.trans
    (fun _ _ sound ⟨_, taken⟩ => (sound.step taken).kept)

/-! ## The queue below a delivery -/

/-- A call commits, for a run that was received if it is a success. -/
theorem next_call {now : Timestamp} {locked : Str → Bool} {operation : Operation}
    (taken : next embedding (.call now locked operation) state = some state') :
    Received state.queue operation ∧ ∃ answer db,
      perform now locked operation state.queue.db = .ok (answer, db) ∧
      state' = { state with queue := state.queue.after now operation answer db } := by
  cases taken_of_next taken with
  | @call _ _ _ answer db received performed => exact ⟨received, answer, db, performed, rfl⟩

theorem queue_reschedule (now : Timestamp) (item : SummaryOutboxItem) (publicError : Str) :
    ∃ outbox, (state.reschedule now item publicError).queue = (state.withOutbox outbox).queue := by
  rcases state.reschedule_cases now item publicError with ⟨delay, same⟩ | same
  · exact ⟨_, congrArg queue same⟩
  · exact ⟨state.outbox, congrArg queue same⟩

theorem phases_reschedule (now : Timestamp) (item : SummaryOutboxItem) (publicError : Str) :
    (state.reschedule now item publicError).phases = state.phases := by
  rcases state.reschedule_cases now item publicError with ⟨delay, same⟩ | same
  · rw [same]
    rfl
  · rw [same]

theorem memory_reschedule (now : Timestamp) (item : SummaryOutboxItem) (publicError : Str) :
    (state.reschedule now item publicError).memory = state.memory := by
  rcases state.reschedule_cases now item publicError with ⟨delay, same⟩ | same
  · rw [same]
    rfl
  · rw [same]

/-- A step is a call of the queue, or touches nothing of it but the outbox. -/
theorem queue_of_next {act : DeliveryAct} (taken : next embedding act state = some state') :
    (∃ now locked operation answer db, act = .call now locked operation ∧
      Received state.queue operation ∧
      perform now locked operation state.queue.db = .ok (answer, db) ∧
      state' = { state with queue := state.queue.after now operation answer db }) ∨
    ∃ outbox, state'.queue = (state.withOutbox outbox).queue := by
  have same : state.queue = (state.withOutbox state.outbox).queue := rfl
  cases taken_of_next taken with
  | @call now locked operation answer db received performed =>
    exact Or.inl ⟨now, locked, operation, answer, db, rfl, received, performed, rfl⟩
  | claimed | poisoned | quarantine | complete => exact Or.inr ⟨_, rfl⟩
  | mismatch | retry => exact Or.inr (queue_reschedule _ _ _)
  | write | writeRaises | completeRaises | abandon | remember | expire => exact Or.inr ⟨_, same⟩

/-- Every run keeps its request, and every column once it has ended. -/
structure Followed (before after : Delivery) : Prop where
  request : ∀ id row, before.queue.db.run? id = some row →
    ∃ row', after.queue.db.run? id = some row' ∧ SameRequest row row'
  final : ∀ id row, before.queue.db.run? id = some row →
    row.status = .succeeded ∨ row.status = .failed → after.queue.db.run? id = some row

theorem Followed.refl (state : Delivery) : Followed state state :=
  ⟨fun _ row found => ⟨row, found, SameRequest.refl row⟩, fun _ _ found _ => found⟩

theorem Followed.trans {first second third : Delivery} (early : Followed first second)
    (late : Followed second third) : Followed first third := by
  refine ⟨fun id row found => ?_, fun id row found ended => ?_⟩
  · obtain ⟨middle, between, same⟩ := early.request id row found
    obtain ⟨last, after, sameAgain⟩ := late.request id middle between
    exact ⟨last, after, same.trans sameAgain⟩
  · exact late.final id row (early.final id row found ended) ended

theorem Sound.followed (sound : state.Sound) {act : DeliveryAct}
    (taken : next embedding act state = some state') : Followed state state' := by
  rcases queue_of_next taken with ⟨now, locked, operation, answer, db, -, -, performed, rfl⟩ |
    ⟨outbox, same⟩
  · have step : QueueState.Step QueueState.anyCall state.queue
        (state.queue.after now operation answer db) := .call trivial performed
    refine ⟨fun id row found => (perform_effect sound.queue.linked performed).sameRequest found,
      fun id row found ended => ?_⟩
    exact ((QueueState.progressed_step sound.queue step).final id row found ended).1
  · have runs : ∀ id, state'.queue.db.run? id = state.queue.db.run? id := by
      intro id
      rw [same]
      rfl
    refine ⟨fun id row found => ⟨row, ?_, SameRequest.refl row⟩, fun id row found _ => ?_⟩
    · rw [runs, found]
    · rw [runs, found]

theorem followed_of_runs (sound : state.Sound) (run : Runs (Step embedding) state state') :
    Followed state state' :=
  Runs.relates run (fun _ _ sound ⟨_, taken⟩ => (sound.step taken).sound) sound Followed.refl
    Followed.trans (fun _ _ sound ⟨_, taken⟩ => sound.followed taken)

end Delivery

end RlmApi
