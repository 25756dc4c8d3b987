import RlmApi.RunLifecycle

/-!
# Effects of the store's operations

`Operation` lists the calls that write the run queue, and `perform` runs one of
them as one atomic transaction. `Operation.Acts` says which action a call with a
given answer takes on which run, and `perform_effect` is the inversion of
`perform`: every run's dossier is unchanged or changed by exactly the action that
`Acts` names. Invariants of the queue are derived from it and from
`RlmApi.RunLifecycle`, never from the transactions themselves.
-/

namespace RlmApi

open RunStore

/-- A call of the store. `add_event` is only called to report a lost lease. -/
inductive Operation where
  | enqueue (runId : Uuid) (arguments : EnqueueArguments)
  | claim (workerId : Str) (maxQuarantined : Int)
  | heartbeat (run : ClaimedRun)
  | succeed (run : ClaimedRun) (arguments : SucceedArguments)
  | fail (run : ClaimedRun) (arguments : FailArguments)
  | recoverStale (staleSeconds batchSize : Int)
  | report (run : ClaimedRun) (payload : List (Str × Json))

/-- What a call returns. -/
inductive Answer where
  | enqueued (runId : Str)
  | claimed (run : Option ClaimedRun)
  | beaten (owned : Bool)
  | succeeded (owned : Bool)
  | failed (next : Option RunStatus)
  | recovered (retried failed : Int)
  | reported

namespace Operation

/-- The transaction of a call. -/
def transaction (now : Timestamp) : Operation → Tx Answer
  | .enqueue runId arguments => (RunStore.enqueue now runId arguments).map .enqueued
  | .claim workerId maxQuarantined => (RunStore.claim now workerId maxQuarantined).map .claimed
  | .heartbeat run => (RunStore.heartbeat now run).map .beaten
  | .succeed run arguments => (RunStore.succeed now run arguments).map .succeeded
  | .fail run arguments => (RunStore.fail now run arguments).map .failed
  | .recoverStale staleSeconds batchSize =>
      (RunStore.recoverStale now staleSeconds batchSize).map
        (fun counts => .recovered counts.1 counts.2)
  | .report run payload => (RunStore.addEvent run.id .workerLeaseLost payload).map
      (fun _ => .reported)

/-- The action a call with this answer takes on one run, `none` for leaving it
alone. Only a claim and a recovery do not determine it. -/
def Acts : Operation → Answer → Str → Option RunAction → Prop
  | .enqueue runId arguments, .enqueued _, id, action =>
      action = if id = runId.text then some (.enqueue arguments) else none
  | .claim workerId _, .claimed none, _, action =>
      action = none ∨ action = some (.quarantine workerId)
  | .claim workerId _, .claimed (some run), id, action =>
      run.workerId = workerId ∧
        if id = run.id then action = some (.start run)
        else action = none ∨ action = some (.quarantine workerId)
  | .heartbeat run, .beaten owned, id, action =>
      action = if owned = true ∧ id = run.id then some (.beat run) else none
  | .succeed run arguments, .succeeded owned, id, action =>
      action = if owned = true ∧ id = run.id then some (.succeed run arguments) else none
  | .fail _ _, .failed none, _, action => action = none
  | .fail run arguments, .failed (some next), id, action =>
      action = if id = run.id then some (.fail run arguments next) else none
  | .recoverStale staleSeconds _, .recovered _ _, _, action =>
      action = none ∨ ∃ next, action = some (.recover staleSeconds next)
  | .report run payload, .reported, id, action =>
      action = if id = run.id then some (.report payload) else none
  | _, _, _, _ => False

/-- The call an action belongs to. -/
def CalledBy (operation : Operation) : RunAction → Prop
  | .enqueue arguments => ∃ runId, operation = .enqueue runId arguments
  | .quarantine workerId => ∃ maxQuarantined, operation = .claim workerId maxQuarantined
  | .start run => ∃ maxQuarantined, operation = .claim run.workerId maxQuarantined
  | .beat run => operation = .heartbeat run
  | .succeed run arguments => operation = .succeed run arguments
  | .fail run arguments _ => operation = .fail run arguments
  | .recover staleSeconds _ => ∃ batchSize, operation = .recoverStale staleSeconds batchSize
  | .report payload => ∃ run, operation = .report run payload

/-- A call takes only its own actions. -/
theorem calledBy_of_acts {operation : Operation} {answer : Answer} {id : Str} {action : RunAction}
    (acts : operation.Acts answer id (some action)) : operation.CalledBy action := by
  cases operation with
  | claim workerId maxQuarantined =>
    cases answer with
    | claimed claim =>
      cases claim with
      | none =>
        simp only [Acts, reduceCtorEq, Option.some.injEq, false_or] at acts
        exact acts ▸ ⟨_, rfl⟩
      | some run =>
        obtain ⟨rfl, acts⟩ := acts
        split at acts
        · rw [Option.some.inj acts]
          exact ⟨_, rfl⟩
        · simp only [reduceCtorEq, Option.some.injEq, false_or] at acts
          exact acts ▸ ⟨_, rfl⟩
    | enqueued | beaten | succeeded | failed | recovered | reported => exact False.elim acts
  | fail run arguments =>
    cases answer with
    | failed next =>
      cases next with
      | none => cases acts
      | some next =>
        simp only [Acts, Option.some_eq_ite_none_right, Option.some.injEq] at acts
        exact acts.2 ▸ rfl
    | enqueued | claimed | beaten | succeeded | recovered | reported => exact False.elim acts
  | recoverStale staleSeconds batchSize =>
    cases answer with
    | recovered retried failed =>
      simp only [Acts, reduceCtorEq, Option.some.injEq, false_or] at acts
      obtain ⟨next, rfl⟩ := acts
      exact ⟨_, rfl⟩
    | enqueued | claimed | beaten | succeeded | failed | reported => exact False.elim acts
  | enqueue runId arguments | report run payload =>
    cases answer <;> simp only [Acts, Option.some_eq_ite_none_right, Option.some.injEq] at acts
    exact acts.2 ▸ ⟨_, rfl⟩
  | heartbeat run | succeed run arguments =>
    cases answer <;> simp only [Acts, Option.some_eq_ite_none_right, Option.some.injEq] at acts
    exact acts.2 ▸ rfl

/-- What a call with this answer does to the summary outbox. -/
def outboxChange (now : Timestamp) : Operation → Answer → Outbox → Outbox
  | .succeed run arguments, .succeeded true =>
      match embeddingParameters run with
      | .ok embedding => upsertSummary now (summaryRow now run arguments embedding)
      | .error _ => id
  | _, _ => id

/-- The runs whose existence the caller of the store relies on. -/
def Known : Operation → Str → Prop
  | .report run _, id => id = run.id
  | _, _ => False

end Operation

/-- One run before and after an action, or left alone. -/
def Acted (now : Timestamp) : Option RunAction → Option RunDossier → Option RunDossier → Prop
  | none, before, after => after = before
  | some action, before, after => ∃ dossier, after = some dossier ∧
      RunChange now action before dossier

/-- The footprint of a committed call. -/
structure Operation.Effect (now : Timestamp) (operation : Operation) (answer : Answer)
    (footprint : Footprint Str RunRow EventBody Outbox) : Prop where
  side : footprint.side = operation.outboxChange now answer
  acted : ∀ id, ∃ action, operation.Acts answer id action ∧
    match footprint.touched id, action with
    | none, none => True
    | some touched, some action => RunChange now action touched.before touched.after
    | _, _ => False

/-! ## The rules of the transactions -/

/-- A footprint of one action on one run. -/
structure Single (now : Timestamp) (id : Str) (action : RunAction) (side : Outbox → Outbox)
    (footprint : Footprint Str RunRow EventBody Outbox) : Prop where
  side : footprint.side = side
  change : ∃ touched : Touched Str RunRow EventBody,
    (∀ other, footprint.touched other = if other = id then some touched else none) ∧
      RunChange now action touched.before touched.after

/-- The footprint of an owner's call: one action, or nothing at all. -/
def Owned (now : Timestamp) (owned : Bool) (runId : Str) (action : RunAction)
    (side : Outbox → Outbox) (footprint : Footprint Str RunRow EventBody Outbox) : Prop :=
  if owned then Single now runId action side footprint else footprint = Footprint.untouched

section Rules

variable {α : Type} {now : Timestamp} {known : Str → Prop}
  {post : α → Footprint Str RunRow EventBody Outbox → Prop}
  {footprint : Footprint Str RunRow EventBody Outbox}

/-- `_append_event` on a run whose row is held. -/
theorem ensures_appendEvent {id : Str} {eventType : EventType} {payload : List (Str × Json)}
    {next : Tx α} {touched : Touched Str RunRow EventBody}
    (held : footprint.touched id = some touched)
    (ensured : next.Ensures RunRow.id known post
      (footprint.set id (touched.revise (·.record id ⟨eventType, .obj payload⟩)))) :
    (appendEvent id eventType payload next).Ensures RunRow.id known post footprint := by
  simp only [appendEvent, Transaction.Ensures, held]
  exact ensured

theorem single_of_set (runId : Str) {action : RunAction} {touched : Touched Str RunRow EventBody}
    (change : RunChange now action touched.before touched.after) :
    Single now runId action id (Footprint.untouched.set runId touched) :=
  ⟨rfl, touched, fun other => by simp [Footprint.touched_set], change⟩

@[simp] theorem queuedRow_id (runId : Str) (arguments : EnqueueArguments) :
    (queuedRow now runId arguments).id = runId := rfl

theorem ensures_enqueue (runId : Uuid) (arguments : EnqueueArguments) :
    (enqueue now runId arguments).Ensures RunRow.id known
      (fun _ => Single now runId.text (.enqueue arguments) id) Footprint.untouched := by
  by_cases storable : arguments.storable = true
  · by_cases positive : 0 < arguments.maxAttempts
    · simp only [enqueue, storable, Int.not_le.mpr positive, Bool.not_true, Bool.false_eq_true,
        ↓reduceIte, Transaction.Ensures, queuedRow_id]
      intro free
      refine ensures_appendEvent (Footprint.touched_set_self _ _ _) ?_
      simp only [Transaction.Ensures, Footprint.set_set]
      exact single_of_set runId.text (RunChange.enqueue storable positive)
    · simp [enqueue, storable, Int.not_lt.mp positive, Transaction.Ensures]
  · simp [enqueue, storable, Transaction.Ensures]

theorem ensures_heartbeat (run : ClaimedRun) :
    (heartbeat now run).Ensures RunRow.id known
      (fun owned => Owned now owned run.id (.beat run) id) Footprint.untouched := by
  refine ⟨fun _ => rfl, fun dossier keyed leased => ?_, rfl⟩
  exact single_of_set run.id (RunChange.beat leased)

theorem ensures_succeed (run : ClaimedRun) (arguments : SucceedArguments) :
    (succeed now run arguments).Ensures RunRow.id known
      (fun owned => Owned now owned run.id (.succeed run arguments)
        ((Operation.succeed run arguments).outboxChange now (.succeeded true)))
      Footprint.untouched := by
  refine ⟨fun _ => rfl, fun dossier keyed leased => ?_, rfl⟩
  cases embedded : embeddingParameters run with
  | error error => simp only [Transaction.Ensures]
  | ok embedding =>
    have change : RunChange now (.succeed run arguments) (some dossier) _ :=
      RunChange.succeed leased embedded
    rw [keyed] at change
    refine ensures_appendEvent (Footprint.touched_set_self _ _ _)
      ⟨?_, ⟨some dossier, _⟩, fun other => ?_, change⟩
    · simp only [Operation.outboxChange, embedded]
      rfl
    · by_cases same : other = run.id
      · simp only [same, Footprint.touched_set_self, ↓reduceIte]
        rfl
      · simp [Footprint.touched_set, same]

theorem ensures_fail (run : ClaimedRun) (arguments : FailArguments) :
    (fail now run arguments).Ensures RunRow.id known
      (fun answer footprint => match answer with
        | some next => Single now run.id (.fail run arguments next) id footprint
        | none => footprint = Footprint.untouched)
      Footprint.untouched := by
  cases status : failureStatus run.attempts run.maxAttempts arguments.retryable with
  | error error => simp only [fail, status, Transaction.Ensures]
  | ok next =>
    cases delayed : retryDelaySeconds run.attempts runRetryCapSeconds with
    | error error => simp only [fail, status, delayed, Transaction.Ensures]
    | ok delay =>
      simp only [fail, status, delayed]
      refine ⟨fun _ => rfl, fun dossier keyed leased => ?_, rfl⟩
      have change : RunChange now (.fail run arguments next) (some dossier) _ :=
        RunChange.fail status delayed leased
      rw [keyed] at change
      refine ensures_appendEvent (Footprint.touched_set_self _ _ _) ?_
      simp only [Transaction.Ensures, Footprint.set_set]
      exact single_of_set run.id change

theorem ensures_report (run : ClaimedRun) (payload : List (Str × Json)) :
    (addEvent run.id .workerLeaseLost payload).Ensures RunRow.id (fun runId => runId = run.id)
      (fun _ => Single now run.id (.report payload) id) Footprint.untouched := by
  refine ⟨fun dossier keyed => ?_, fun unknown => absurd rfl unknown⟩
  have change : RunChange now (.report payload) (some dossier) _ := RunChange.report
  rw [keyed] at change
  simp only [Transaction.Ensures, Footprint.touched_set_self, Footprint.set_set]
  exact single_of_set run.id change

/-- Every held run was quarantined, which is what a claim has done before the
iteration that hands one out. -/
structure Quarantined (now : Timestamp) (workerId : Str)
    (footprint : Footprint Str RunRow EventBody Outbox) : Prop where
  side : footprint.side = id
  refused : ∀ runId touched, footprint.touched runId = some touched →
    RunChange now (.quarantine workerId) touched.before touched.after

/-- The footprint of a claim with its answer. -/
def Claimed (now : Timestamp) (workerId : Str) (answer : Option ClaimedRun)
    (footprint : Footprint Str RunRow EventBody Outbox) : Prop :=
  match answer with
  | none => Quarantined now workerId footprint
  | some run => run.workerId = workerId ∧ ∃ earlier touched, Quarantined now workerId earlier ∧
      footprint = earlier.set run.id touched ∧
      RunChange now (.start run) touched.before touched.after

/-- Quarantining one more run. -/
theorem Quarantined.set {workerId runId : Str} {touched : Touched Str RunRow EventBody}
    (quarantined : Quarantined now workerId footprint)
    (change : RunChange now (.quarantine workerId) touched.before touched.after) :
    Quarantined now workerId (footprint.set runId touched) := by
  refine ⟨quarantined.side, fun other held found => ?_⟩
  rw [Footprint.touched_set] at found
  split at found
  · exact Option.some.inj found ▸ change
  · exact quarantined.refused other held found

/-- A quarantined run is not picked again by the same claim. -/
theorem Quarantined.free {workerId : Str} {row : RunRow}
    (quarantined : Quarantined now workerId footprint) (wanted : claimable now row = true)
    (own : ∀ touched, footprint.touched row.id = some touched → touched.after.row = row) :
    footprint.touched row.id = none := by
  rw [Option.eq_none_iff_forall_ne_some]
  rintro ⟨before, after⟩ held
  have queued := ((claimable_iff _ _).mp (own _ held ▸ wanted)).1
  cases quarantined.refused _ _ held with
  | quarantine => exact RunStatus.noConfusion queued

/-- `_quarantine_claim` on a held run that the claim has just marked running. -/
theorem ensures_quarantineClaim {runId workerId : Str} {next : Tx α}
    {touched : Touched Str RunRow EventBody} (held : footprint.touched runId = some touched)
    (leased : leasedBy workerId touched.after.row = true)
    (ensured : next.Ensures RunRow.id known post (footprint.set runId
      (touched.revise (fun dossier => (dossier.rewrite (quarantinedVersion now dossier.row)).record
        runId ⟨.failed, .obj quarantinePayload⟩)))) :
    (quarantineClaim now runId workerId next).Ensures RunRow.id known post footprint := by
  simp only [quarantineClaim, Transaction.Ensures, held, leased, ↓reduceIte]
  refine ⟨fun _ => rfl, ensures_appendEvent (Footprint.touched_set_self _ _ _) ?_⟩
  rw [Footprint.set_set]
  exact ensured

@[simp] theorem claimedVersion_id (workerId : Str) (row : RunRow) :
    (claimedVersion now workerId row).id = row.id := rfl

/-- One iteration of the claim loop picks a free run, marks it running and then
either hands it out or quarantines it and goes on. Induction on the iterations
left, carrying the runs quarantined so far. -/
theorem ensures_claimLoop (workerId : Str) (remaining : Nat)
    (quarantined : Quarantined now workerId footprint) :
    (claimLoop now workerId remaining).Ensures RunRow.id known (Claimed now workerId)
      footprint := by
  induction remaining generalizing footprint with
  | zero => exact quarantined
  | succ remaining ih =>
    simp only [claimLoop, Transaction.Ensures]
    intro rows entriesOf _ bounded wanted own
    rcases rows with _ | ⟨row, _ | ⟨second, rest⟩⟩
    · simp only [Transaction.Ensures, Footprint.lockRows_nil]
      exact quarantined
    · have queued := wanted row (List.mem_singleton_self row)
      have free := quarantined.free queued (own row (List.mem_singleton_self row))
      simp only [Transaction.Ensures, Footprint.lockRows_singleton entriesOf free,
        Footprint.touched_set_self, Touched.locked_after, ↓reduceIte, Footprint.set_set]
      refine ⟨fun _ => rfl, ?_⟩
      cases decoded : decodeClaimedRun (claimedVersion now workerId row).returning workerId with
      | error error =>
        have change : RunChange now (.quarantine workerId) (some ⟨row, entriesOf row.id⟩) _ :=
          RunChange.quarantine queued decoded
        refine ensures_quarantineClaim (Footprint.touched_set_self _ _ _)
          ((leasedBy_iff _ _).mpr ⟨rfl, rfl⟩) (ih ?_)
        rw [claimedVersion_id, Footprint.set_set]
        exact quarantined.set change
      | ok run =>
        have claimed := claimedFrom_of_decoded decoded
        have change : RunChange now (.start run) (some ⟨row, entriesOf row.id⟩) _ :=
          RunChange.start queued decoded
        have same : run.id = row.id := claimed.id
        simp only [same]
        refine ensures_appendEvent (Footprint.touched_set_self _ _ _) ?_
        rw [Footprint.set_set]
        exact ⟨claimed.workerId, footprint, _, quarantined, by rw [same], change⟩
    · simp at bounded

theorem ensures_claim (workerId : Str) (maxQuarantined : Int) :
    (claim now workerId maxQuarantined).Ensures RunRow.id known (Claimed now workerId)
      Footprint.untouched := by
  by_cases invalid : maxQuarantined < 1
  · simp only [claim, invalid, ↓reduceIte, Transaction.Ensures]
  · simp only [claim, invalid, ↓reduceIte]
    exact ensures_claimLoop workerId _ ⟨rfl, fun _ _ found => by simp at found⟩

/-- Every held run was recovered, except the selected ones still to come. -/
structure Recovering (now : Timestamp) (staleSeconds : Int) (rows : List RunRow)
    (footprint : Footprint Str RunRow EventBody Outbox) : Prop where
  side : footprint.side = id
  distinct : (rows.map RunRow.id).Nodup
  stale : ∀ row ∈ rows, isStale now staleSeconds row = true
  pending : ∀ row ∈ rows, ∃ entries, footprint.touched row.id = some (Touched.locked ⟨row, entries⟩)
  recovered : ∀ runId touched, footprint.touched runId = some touched →
    runId ∈ rows.map RunRow.id ∨
      ∃ next, RunChange now (.recover staleSeconds next) touched.before touched.after

/-- Recovering the first selected row. -/
theorem Recovering.advance {staleSeconds : Int} {row : RunRow} {rest : List RunRow}
    {next : RunStatus} {touched : Touched Str RunRow EventBody}
    (recovering : Recovering now staleSeconds (row :: rest) footprint)
    (change : RunChange now (.recover staleSeconds next) touched.before touched.after) :
    Recovering now staleSeconds rest (footprint.set row.id touched) := by
  obtain ⟨fresh, distinct⟩ := List.nodup_cons.mp recovering.distinct
  refine ⟨recovering.side, distinct,
    fun other member => recovering.stale other (List.mem_cons_of_mem _ member), ?_, ?_⟩
  · intro other member
    have apart : other.id ≠ row.id := fun same => fresh (same ▸ List.mem_map_of_mem member)
    rw [Footprint.touched_set_ne _ _ apart]
    exact recovering.pending other (List.mem_cons_of_mem _ member)
  · intro runId held found
    by_cases same : runId = row.id
    · subst same
      rw [Footprint.touched_set_self, Option.some.injEq] at found
      exact Or.inr ⟨next, found ▸ change⟩
    · rw [Footprint.touched_set_ne _ _ same] at found
      have earlier := recovering.recovered runId held found
      simpa [same] using earlier

/-- The loop of `recover_stale` recovers every selected row or raises. Induction
on the selected rows. -/
theorem ensures_recoverRows {staleSeconds : Int} (rows : List RunRow) (retried failed : Int)
    (recovering : Recovering now staleSeconds rows footprint) :
    (recoverRows now rows retried failed).Ensures RunRow.id known
      (fun _ => Recovering now staleSeconds []) footprint := by
  induction rows generalizing retried failed footprint with
  | nil => exact recovering
  | cons row rest ih =>
    cases status : failureStatus row.attempts row.maxAttempts true with
    | error error => simp only [recoverRows, status, Transaction.Ensures]
    | ok next =>
      cases delayed : retryDelaySeconds row.attempts runRetryCapSeconds with
      | error error => simp only [recoverRows, status, delayed, Transaction.Ensures]
      | ok delay =>
        obtain ⟨entries, held⟩ := recovering.pending row List.mem_cons_self
        have change : RunChange now (.recover staleSeconds next) (some ⟨row, entries⟩) _ :=
          RunChange.recover (recovering.stale row List.mem_cons_self) status delayed
        simp only [recoverRows, status, delayed, Transaction.Ensures, held, ↓reduceIte]
        refine ⟨fun _ => rfl, ensures_appendEvent (Footprint.touched_set_self _ _ _) ?_⟩
        rw [Footprint.set_set]
        rcases failureStatus_cases status with ⟨rfl, -⟩ | rfl
        · exact ih _ _ (recovering.advance change)
        · exact ih _ _ (recovering.advance change)

theorem ensures_recoverStale (staleSeconds batchSize : Int) :
    (recoverStale now staleSeconds batchSize).Ensures RunRow.id known
      (fun _ => Recovering now staleSeconds []) Footprint.untouched := by
  by_cases invalidStale : staleSeconds < 1
  · simp only [recoverStale, invalidStale, ↓reduceIte, Transaction.Ensures]
  by_cases invalidBatch : batchSize < 1
  · simp only [recoverStale, invalidStale, invalidBatch, ↓reduceIte, Transaction.Ensures]
  simp only [recoverStale, invalidStale, invalidBatch, ↓reduceIte, Transaction.Ensures]
  intro rows entriesOf distinct _ stale _
  refine ensures_recoverRows rows 0 0 ⟨rfl, distinct, stale, ?_, ?_⟩
  · intro row member
    exact ⟨_, Footprint.touched_lockRows_of_mem entriesOf distinct member rfl⟩
  · intro runId touched held
    rcases Footprint.touched_lockRows held with early | ⟨-, row, member, keyed, -⟩
    · simp at early
    · exact Or.inl (keyed ▸ List.mem_map_of_mem member)

end Rules

/-! ## The effect of a call -/

namespace Operation

variable {now : Timestamp} {operation : Operation} {answer : Answer}
  {footprint : Footprint Str RunRow EventBody Outbox}

theorem Effect.of_single {runId : Str} {action : RunAction}
    (single : Single now runId action (operation.outboxChange now answer) footprint)
    (acts : ∀ id, operation.Acts answer id (if id = runId then some action else none)) :
    operation.Effect now answer footprint := by
  obtain ⟨side, touched, held, change⟩ := single
  refine ⟨side, fun id => ⟨_, acts id, ?_⟩⟩
  rw [held id]
  by_cases same : id = runId
  · simpa [same] using change
  · simp [same]

theorem Effect.of_untouched (idle : operation.outboxChange now answer = id)
    (acts : ∀ id, operation.Acts answer id none) :
    operation.Effect now answer Footprint.untouched :=
  ⟨idle.symm, fun id => ⟨none, acts id, trivial⟩⟩

/-- Every held run was changed by an action the answer allows, and the others may
be left alone. -/
theorem Effect.of_held (side : footprint.side = operation.outboxChange now answer)
    (held : ∀ id touched, footprint.touched id = some touched →
      ∃ action, operation.Acts answer id (some action) ∧
        RunChange now action touched.before touched.after)
    (free : ∀ id, footprint.touched id = none → operation.Acts answer id none) :
    operation.Effect now answer footprint := by
  refine ⟨side, fun id => ?_⟩
  cases found : footprint.touched id with
  | none => exact ⟨none, free id found, trivial⟩
  | some touched =>
    obtain ⟨action, allowed, change⟩ := held id touched found
    exact ⟨some action, allowed, change⟩

/-- The effect of an owner's call, from its rule. -/
theorem Effect.of_owned {owned : Bool} {run : ClaimedRun} {action : RunAction}
    (footprints : Owned now owned run.id action (operation.outboxChange now answer) footprint)
    (idle : owned = false → operation.outboxChange now answer = id)
    (acts : ∀ id, operation.Acts answer id
      (if owned = true ∧ id = run.id then some action else none)) :
    operation.Effect now answer footprint := by
  cases owned with
  | false =>
    rw [show footprint = Footprint.untouched from footprints]
    exact Effect.of_untouched (idle rfl) (by simpa using acts)
  | true => exact Effect.of_single footprints (by simpa using acts)

theorem Effect.of_claimed {workerId : Str} {maxQuarantined : Int} {run : Option ClaimedRun}
    (claimed : Claimed now workerId run footprint) :
    (Operation.claim workerId maxQuarantined).Effect now (.claimed run) footprint := by
  cases run with
  | none =>
    exact Effect.of_held claimed.side
      (fun id touched held => ⟨_, Or.inr rfl, claimed.refused id touched held⟩)
      (fun _ _ => Or.inl rfl)
  | some run =>
    obtain ⟨owner, earlier, started, quarantined, rfl, change⟩ := claimed
    refine Effect.of_held quarantined.side (fun id touched held => ?_) (fun id free => ?_)
    · by_cases same : id = run.id
      · subst same
        rw [Footprint.touched_set_self, Option.some.injEq] at held
        exact ⟨.start run, ⟨owner, by simp⟩, held ▸ change⟩
      · rw [Footprint.touched_set_ne _ _ same] at held
        exact ⟨_, ⟨owner, by simp [same]⟩, quarantined.refused id touched held⟩
    · have other : id ≠ run.id := by
        rintro rfl
        simp at free
      exact ⟨owner, by simp [other]⟩

/-- Every call's committed footprint is the one its answer stands for. -/
theorem ensures (now : Timestamp) (operation : Operation) :
    (operation.transaction now).Ensures RunRow.id operation.Known (operation.Effect now)
      Footprint.untouched := by
  cases operation with
  | enqueue runId arguments =>
    rw [transaction, Transaction.ensures_map]
    exact (ensures_enqueue runId arguments).mono
      (fun _ _ single => Effect.of_single single (fun _ => rfl))
  | claim workerId maxQuarantined =>
    rw [transaction, Transaction.ensures_map]
    exact (ensures_claim workerId maxQuarantined).mono (fun _ _ => Effect.of_claimed)
  | heartbeat run =>
    rw [transaction, Transaction.ensures_map]
    exact (ensures_heartbeat run).mono
      (fun _ _ owned => Effect.of_owned owned (fun _ => rfl) (fun _ => rfl))
  | succeed run arguments =>
    rw [transaction, Transaction.ensures_map]
    refine (ensures_succeed run arguments).mono (fun owned footprint footprints => ?_)
    cases owned with
    | false => exact Effect.of_owned footprints (fun _ => rfl) (fun _ => rfl)
    | true =>
      exact Effect.of_owned footprints (fun absurd => Bool.noConfusion absurd) (fun _ => rfl)
  | fail run arguments =>
    rw [transaction, Transaction.ensures_map]
    refine (ensures_fail run arguments).mono (fun next footprint footprints => ?_)
    cases next with
    | none => exact footprints ▸ Effect.of_untouched rfl (fun _ => rfl)
    | some next => exact Effect.of_single footprints (fun _ => rfl)
  | recoverStale staleSeconds batchSize =>
    rw [transaction, Transaction.ensures_map]
    refine (ensures_recoverStale staleSeconds batchSize).mono (fun counts footprint recovered => ?_)
    refine Effect.of_held recovered.side (fun id touched held => ?_) (fun _ _ => Or.inl rfl)
    rcases recovered.recovered id touched held with none | ⟨next, change⟩
    · simp at none
    · exact ⟨_, Or.inr ⟨next, rfl⟩, change⟩
  | report run payload =>
    rw [transaction, Transaction.ensures_map]
    exact (ensures_report run payload).mono
      (fun _ _ single => Effect.of_single single (fun _ => rfl))

end Operation

/-- One call as one atomic transaction, with the runs that others hold. -/
def perform (now : Timestamp) (locked : Str → Bool) (operation : Operation) (db : Database) :
    Except (Fault PyError) (Answer × Database) :=
  (operation.transaction now).execute locked db

/-- What one committed call did to the database. -/
structure Performed (now : Timestamp) (operation : Operation) (answer : Answer)
    (db db' : Database) : Prop where
  linked : db'.Linked
  outbox : db'.side = operation.outboxChange now answer db.side
  acted : ∀ id, ∃ action, operation.Acts answer id action ∧
    Acted now action (db.dossier? id) (db'.dossier? id)

/-- A committed footprint of a call did what the call's answer stands for. This is
the one place where footprints turn into statements about databases. -/
theorem Operation.Effect.performed {now : Timestamp} {operation : Operation} {answer : Answer}
    {footprint : Footprint Str RunRow EventBody Outbox} {db db' : Database}
    (effect : operation.Effect now answer footprint) (leads : footprint.Leads db db') :
    Performed now operation answer db db' := by
  refine ⟨leads.linked, by rw [leads.side, effect.side], fun id => ?_⟩
  obtain ⟨action, allowed, change⟩ := effect.acted id
  refine ⟨action, allowed, ?_⟩
  cases held : footprint.touched id with
  | none =>
    cases action with
    | none => exact leads.untouched id held
    | some action => simp [held] at change
  | some touched =>
    cases action with
    | none => simp [held] at change
    | some action =>
      obtain ⟨before, after⟩ := leads.touched id touched held
      simp only [held] at change
      exact ⟨touched.after, after, before ▸ change⟩

/-- An event for a run that does not exist violates the foreign key. -/
theorem known_of_performed {now : Timestamp} {locked : Str → Bool} {operation : Operation}
    {db db' : Database} {answer : Answer}
    (performed : perform now locked operation db = .ok (answer, db')) :
    ∀ id, operation.Known id → (db.table.find? id).isSome := by
  intro id known
  cases operation with
  | report run payload =>
    obtain rfl : id = run.id := known
    by_contra missing
    simp [perform, Operation.transaction, addEvent, appendEvent, Transaction.map,
      Transaction.execute, missing] at performed
  | enqueue | claim | heartbeat | succeed | fail | recoverStale => exact False.elim known

/-- The inversion of `perform`. -/
theorem perform_effect {now : Timestamp} {locked : Str → Bool} {operation : Operation}
    {db db' : Database} {answer : Answer} (linked : db.Linked)
    (performed : perform now locked operation db = .ok (answer, db')) :
    Performed now operation answer db db' := by
  obtain ⟨footprint, effect, leads⟩ := Transaction.execute_ensures (operation.ensures now)
    (Footprint.Leads.refl linked) (known_of_performed performed) performed
  exact effect.performed leads

/-! ## What a call does to requests, successes and the outbox -/

/-- `enqueue` writes its row under a fresh id, or raises. -/
theorem stored_of_enqueue {now : Timestamp} {locked : Str → Bool} {runId : Uuid}
    {arguments : EnqueueArguments} {db db' : Database} {answer : Answer}
    (performed : perform now locked (.enqueue runId arguments) db = .ok (answer, db')) :
    arguments.storable = true ∧ db.table.find? runId.text = none ∧
      db'.table = db.table.put (queuedRow now runId.text arguments) ∧ db'.side = db.side ∧
      db'.log = LogEntry.extend db.log runId.text ⟨.queued, .obj queuedPayload⟩ := by
  simp only [perform, Operation.transaction, enqueue] at performed
  split at performed
  · cases performed
  · next storable =>
    split at performed
    · cases performed
    · simp only [Transaction.map, Transaction.execute, appendEvent] at performed
      split at performed
      · cases performed
      · next fresh =>
        split at performed
        · cases performed
          rw [Bool.not_eq_true, Bool.not_eq_false'] at storable
          rw [Bool.not_eq_true, Option.isSome_eq_false_iff, Option.isNone_iff_eq_none] at fresh
          exact ⟨storable, fresh, rfl, rfl, rfl⟩
        · cases performed

/-- A call leaves a run that it finds alone, or one of its own actions changes it. -/
theorem Performed.kept_or_changed {now : Timestamp} {operation : Operation} {answer : Answer}
    {db db' : Database} (performed : Performed now operation answer db db') {id : Str}
    {row : RunRow} (found : db.run? id = some row) :
    db'.run? id = some row ∨
      ∃ action before after, operation.Acts answer id (some action) ∧
        RunChange now action (some before) after ∧ before.row = row ∧
        db'.run? id = some after.row := by
  obtain ⟨before, kept, rfl⟩ := run?_eq_some_iff.mp found
  obtain ⟨action, acts, acted⟩ := performed.acted id
  rw [kept] at acted
  cases action with
  | none => exact Or.inl (run?_eq_some_iff.mpr ⟨before, acted, rfl⟩)
  | some action =>
    obtain ⟨after, written, change⟩ := acted
    exact Or.inr ⟨action, before, after, acts, change, rfl,
      run?_eq_some_iff.mpr ⟨after, written, rfl⟩⟩

/-- A call leaves every run with its request. -/
theorem Performed.sameRequest {now : Timestamp} {operation : Operation} {answer : Answer}
    {db db' : Database} (performed : Performed now operation answer db db') {id : Str}
    {row : RunRow} (found : db.run? id = some row) :
    ∃ row', db'.run? id = some row' ∧ SameRequest row row' := by
  rcases performed.kept_or_changed found with kept | ⟨action, before, after, -, change, rfl, stored⟩
  · exact ⟨row, kept, SameRequest.refl row⟩
  · exact ⟨after.row, stored, change.sameRequest⟩

/-- A run that is a success after a call was one before, or the call is its success. -/
theorem Performed.succeeded {now : Timestamp} {operation : Operation} {answer : Answer}
    {db db' : Database} (performed : Performed now operation answer db db') {id : Str}
    {row : RunRow} (found : db'.run? id = some row) (finished : row.status = .succeeded) :
    db.run? id = some row ∨
      ∃ run arguments, operation = .succeed run arguments ∧ answer = .succeeded true ∧
        id = run.id := by
  obtain ⟨dossier, stored, rfl⟩ := run?_eq_some_iff.mp found
  obtain ⟨action, acts, acted⟩ := performed.acted id
  cases action with
  | none => exact Or.inl (run?_eq_some_iff.mpr ⟨dossier, acted ▸ stored, rfl⟩)
  | some action =>
    obtain ⟨after, written, change⟩ := acted
    obtain rfl : dossier = after := Option.some.inj (stored.symm.trans written)
    rcases change.succeeded finished with ⟨before, found', same⟩ | ⟨run, arguments, rfl⟩
    · exact Or.inl (run?_eq_some_iff.mpr ⟨before, found', same⟩)
    · obtain rfl : operation = .succeed run arguments := Operation.calledBy_of_acts acts
      cases answer <;> simp only [Operation.Acts, Option.some_eq_ite_none_right] at acts
      obtain ⟨⟨rfl, rfl⟩, -⟩ := acts
      exact Or.inr ⟨run, arguments, rfl, rfl, rfl⟩

/-- A success that commits found its run leased, and proposes its summary. -/
theorem Performed.success {now : Timestamp} {run : ClaimedRun} {arguments : SucceedArguments}
    {db db' : Database}
    (performed : Performed now (.succeed run arguments) (.succeeded true) db db') :
    ∃ embedding row, embeddingParameters run = .ok embedding ∧ db.run? run.id = some row ∧
      leasedBy run.workerId row = true ∧
      db'.run? run.id = some (succeededVersion now arguments row) ∧
      db'.side = upsertSummary now (summaryRow now run arguments embedding) db.side := by
  obtain ⟨action, acts, acted⟩ := performed.acted run.id
  simp only [Operation.Acts, and_self, ↓reduceIte] at acts
  subst acts
  obtain ⟨after, written, change⟩ := acted
  have side := performed.outbox
  cases before : db.dossier? run.id with
  | none =>
    rw [before] at change
    cases change
  | some dossier =>
    rw [before] at change
    cases change with
    | @succeed _ _ _ embedding leased embedded =>
      rw [Operation.outboxChange, embedded] at side
      exact ⟨embedding, dossier.row, embedded, run?_eq_some_iff.mpr ⟨dossier, before, rfl⟩, leased,
        run?_eq_some_iff.mpr ⟨_, written, rfl⟩, side⟩

/-- A call leaves the outbox and the succeeded runs alone, or it is a success, and
makes no other run one. -/
theorem Performed.completion {now : Timestamp} {operation : Operation} {answer : Answer}
    {db db' : Database} (performed : Performed now operation answer db db') :
    (db'.side = db.side ∧ ∀ id row, db'.run? id = some row → row.status = .succeeded →
      db.run? id = some row) ∨
    ∃ run arguments, operation = .succeed run arguments ∧ answer = .succeeded true ∧
      ∀ id row, id ≠ run.id → db'.run? id = some row → row.status = .succeeded →
        db.run? id = some row := by
  by_cases completes : ∃ run arguments, operation = .succeed run arguments ∧
      answer = .succeeded true
  · obtain ⟨run, arguments, called, answered⟩ := completes
    refine Or.inr ⟨run, arguments, called, answered, fun id row distinct found finished => ?_⟩
    rcases performed.succeeded found finished with kept | ⟨own, _, called', -, rfl⟩
    · exact kept
    · obtain rfl : own = run := (Operation.succeed.inj (called'.symm.trans called)).1
      exact absurd rfl distinct
  · refine Or.inl ⟨?_, fun id row found finished => ?_⟩
    · rw [performed.outbox]
      unfold Operation.outboxChange
      split
      · next run arguments => exact absurd ⟨run, arguments, rfl, rfl⟩ completes
      · rfl
    · rcases performed.succeeded found finished with kept | ⟨run, arguments, called, answered, -⟩
      · exact kept
      · exact absurd ⟨run, arguments, called, answered⟩ completes

end RlmApi
