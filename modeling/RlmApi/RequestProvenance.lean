import RlmApi.DeliveryInvariant

/-!
# Where runs and claims come from

Every row of `rlm_runs` holds a request that `enqueue` stored, and every claim was
decoded from a version of its run's row. Both are kept by all steps of queue,
outbox, memory store and workers, so a claim carries the request of its run however
late it is used.
-/

namespace RlmApi

open RunStore

/-- The row holds the request of this call of `enqueue`. -/
structure RunRow.EnqueuedBy (row : RunRow) (arguments : EnqueueArguments) : Prop where
  storable : arguments.storable = true
  same : ∃ now, ∃ runId : Uuid, SameRequest (queuedRow now runId.text arguments) row

/-- The claim was decoded from a version of the row. -/
def ClaimedRun.DecodedFrom (run : ClaimedRun) (row : RunRow) : Prop :=
  ∃ version workerId, SameRequest version row ∧
    decodeClaimedRun version.returning workerId = .ok run

/-- Every run was enqueued, and every claim was decoded from its run. -/
structure QueueState.Traced (queue : QueueState) : Prop where
  runs : ∀ id row, queue.db.run? id = some row → ∃ arguments, row.EnqueuedBy arguments
  claims : ∀ run ∈ queue.handed, ∃ row, queue.db.run? run.id = some row ∧ run.DecodedFrom row

section Provenance

variable {row row' : RunRow} {run : ClaimedRun} {arguments : EnqueueArguments}

theorem RunRow.EnqueuedBy.transfer (enqueued : row.EnqueuedBy arguments)
    (same : SameRequest row row') : row'.EnqueuedBy arguments := by
  obtain ⟨now, runId, before⟩ := enqueued.same
  exact ⟨enqueued.storable, now, runId, before.trans same⟩

theorem ClaimedRun.DecodedFrom.transfer (decoded : run.DecodedFrom row)
    (same : SameRequest row row') : run.DecodedFrom row' := by
  obtain ⟨version, workerId, before, read⟩ := decoded
  exact ⟨version, workerId, before.trans same, read⟩

/-- A claim is well formed, whatever it was decoded from. -/
theorem ClaimedRun.DecodedFrom.wellFormed (decoded : run.DecodedFrom row) : run.WellFormed := by
  obtain ⟨version, workerId, -, read⟩ := decoded
  exact ((decodeClaimedRun_ok_iff _ _ _).mp read).2

/-- A claim carries the request of its run. -/
structure ClaimedRun.Carries (run : ClaimedRun) (row : RunRow) (arguments : EnqueueArguments) :
    Prop where
  id : run.id = row.id
  tenantId : run.tenantId = row.tenantId
  subjectId : run.subjectId = row.subjectId
  namespaceName : run.namespaceName = row.namespaceName
  task : run.task = row.task
  context : run.context = row.context
  modelConfig : run.modelConfig = arguments.modelConfig
  includeTrajectory : run.includeTrajectory = row.includeTrajectory
  requested : row.includeTrajectory = arguments.includeTrajectory

theorem ClaimedRun.DecodedFrom.carries (decoded : run.DecodedFrom row)
    (enqueued : row.EnqueuedBy arguments) : run.Carries row arguments := by
  obtain ⟨version, workerId, same, read⟩ := decoded
  obtain ⟨now, runId, before⟩ := enqueued.same
  have held := ((decodeClaimedRun_ok_iff _ _ _).mp read).1
  obtain ⟨fields, object, converted⟩ := held.modelConfig
  have stored : version.modelConfig = modelConfigJson arguments.modelConfig :=
    same.modelConfig.symm.trans before.modelConfig
  have read := Json.loads_eq_some (decodeJson_text_iff.mp object)
  rw [stored, modelConfigJson, Json.obj.injEq] at read
  have converts := convertFields_map modelValue?_modelValueJson arguments.modelConfig
  rw [read, converted] at converts
  exact ⟨(held.id.symm.trans same.id.symm),
    (Column.text.inj held.tenantId).symm.trans same.tenantId.symm,
    (Column.text.inj held.subjectId).symm.trans same.subjectId.symm,
    (Column.text.inj held.namespaceName).symm.trans same.namespaceName.symm,
    (Column.text.inj held.task).symm.trans same.task.symm,
    (Column.text.inj held.context).symm.trans same.context.symm, Option.some.inj converts,
    (Column.bool.inj held.includeTrajectory).symm.trans same.includeTrajectory.symm,
    before.includeTrajectory⟩

end Provenance

/-- A call that starts a run is its enqueue. -/
theorem enqueued_of_acts {operation : Operation} {answer : Answer} {id : Str}
    {arguments : EnqueueArguments} (acts : operation.Acts answer id (some (.enqueue arguments))) :
    ∃ runId : Uuid, operation = .enqueue runId arguments ∧ id = runId.text := by
  obtain ⟨runId, rfl⟩ := Operation.calledBy_of_acts acts
  refine ⟨runId, rfl, ?_⟩
  cases answer with
  | enqueued stored =>
    by_contra other
    simp [Operation.Acts, other] at acts
  | claimed | beaten | succeeded | failed | recovered | reported => exact False.elim acts

/-- A run after a call was there before with the same request, or was enqueued by it. -/
theorem Performed.origin {now : Timestamp} {operation : Operation} {answer : Answer}
    {db db' : Database} (performed : Performed now operation answer db db') {id : Str}
    {row : RunRow} (found : db'.run? id = some row) :
    (∃ before, db.run? id = some before ∧ SameRequest before row) ∨
      ∃ (runId : Uuid) (arguments : EnqueueArguments), operation = .enqueue runId arguments ∧
        id = runId.text ∧ row.EnqueuedBy arguments := by
  obtain ⟨dossier, stored, rfl⟩ := run?_eq_some_iff.mp found
  obtain ⟨action, acts, acted⟩ := performed.acted id
  cases action with
  | none =>
    exact Or.inl ⟨_, run?_eq_some_iff.mpr ⟨dossier, acted ▸ stored, rfl⟩, SameRequest.refl _⟩
  | some action =>
    obtain ⟨after, written, change⟩ := acted
    obtain rfl : dossier = after := Option.some.inj (stored.symm.trans written)
    cases before : db.dossier? id with
    | some earlier =>
      rw [before] at change
      exact Or.inl ⟨_, run?_eq_some_iff.mpr ⟨earlier, before, rfl⟩, change.sameRequest⟩
    | none =>
      rw [before] at change
      cases change with
      | @enqueue own arguments storable positive =>
        obtain ⟨runId, called, keyed⟩ := enqueued_of_acts acts
        exact Or.inr ⟨runId, arguments, called, keyed, storable, now, own, SameRequest.refl _⟩

/-- A claim that a call hands out is what its run's row decodes to. -/
theorem Performed.decoded {now : Timestamp} {operation : Operation} {answer : Answer}
    {db db' : Database} (performed : Performed now operation answer db db') {run : ClaimedRun}
    (handed : run ∈ answer.handed) : ∃ row, db'.run? run.id = some row ∧ run.DecodedFrom row := by
  obtain ⟨earlier, later, written, change⟩ := performed.starts handed
  exact ⟨later.row, run?_eq_some_iff.mpr ⟨later, written, rfl⟩, later.row, run.workerId,
    SameRequest.refl _, change.decoded⟩

/-- What a call did keeps where runs and claims come from. -/
theorem QueueState.Traced.performed {queue : QueueState} (traced : queue.Traced)
    {now : Timestamp} {operation : Operation} {answer : Answer} {db : Database}
    (effect : Performed now operation answer queue.db db) :
    (queue.after now operation answer db).Traced := by
  refine ⟨fun id row found => ?_, fun run member => ?_⟩
  · rcases effect.origin found with ⟨before, earlier, same⟩ | ⟨-, arguments, -, -, enqueued⟩
    · obtain ⟨arguments, enqueued⟩ := traced.runs id before earlier
      exact ⟨arguments, enqueued.transfer same⟩
    · exact ⟨arguments, enqueued⟩
  · rcases List.mem_append.mp member with old | new
    · obtain ⟨row, found, decoded⟩ := traced.claims run old
      obtain ⟨row', later, same⟩ := effect.sameRequest found
      exact ⟨row', later, decoded.transfer same⟩
    · exact effect.decoded new

theorem QueueState.traced_initial : QueueState.initial.Traced := by
  refine ⟨fun id row found => ?_, fun run member => ?_⟩
  · cases found
  · cases member

namespace Delivery

variable {embedding : Str → Str × Int} {state state' : Delivery}

/-- Every step keeps where runs and claims come from. -/
theorem traced_step (sound : state.Sound) (traced : state.queue.Traced) {act : DeliveryAct}
    (taken : next embedding act state = some state') : state'.queue.Traced := by
  rcases queue_of_next taken with ⟨now, locked, operation, answer, db, -, -, performed, rfl⟩ |
    ⟨outbox, same⟩
  · exact traced.performed (perform_effect sound.queue.linked performed)
  · rw [same]
    exact ⟨traced.runs, traced.claims⟩

theorem traced_of_reachable (reached : Reachable embedding state) : state.queue.Traced := by
  exact (@Runs.keeps _ _ _ _ (fun state => state.Sound ∧ state.queue.Traced) reached
    (fun _ _ holds ⟨_, taken⟩ => ⟨(holds.1.step taken).sound, traced_step holds.1 holds.2 taken⟩)
    ⟨Sound.initial, QueueState.traced_initial⟩).2

/-- An enqueued run holds its request in every later state. -/
theorem requested {created : Delivery} {now : Timestamp} {busy : Str → Bool} {runId : Uuid}
    {request : EnqueueArguments} (sound : state.Sound)
    (submitted : next embedding (.call now busy (.enqueue runId request)) state = some created)
    (continued : Runs (Step embedding) created state') :
    ∃ row, state'.queue.db.run? runId.text = some row ∧ row.EnqueuedBy request ∧
      SameRequest (queuedRow now runId.text request) row := by
  have soundCreated := (sound.step submitted).sound
  obtain ⟨-, answer, db, performed, rfl⟩ := next_call submitted
  obtain ⟨storable, -, table, -⟩ := stored_of_enqueue performed
  have found : db.run? runId.text = some (queuedRow now runId.text request) := by
    rw [Database.run?, table]
    exact Table.find?_put_self _ _
  obtain ⟨row, later, same⟩ := (followed_of_runs soundCreated continued).request _ _ found
  exact ⟨row, later, ⟨storable, now, runId, same⟩, same⟩

end Delivery

end RlmApi
