import RlmApi.RunShapes
import RlmApi.SummaryOutbox

/-!
# Backoff between attempts

The delay before a next attempt is computed from the caller's copy of the attempt
counter, written into `available_at`, and enforced by the filter of the next claim
alone. It is effective because nothing but a claim touches a queued run, and nothing
but a claim touches the lease columns of a summary that no worker holds.

The histories here interleave the calls on the run queue with the statements on the
outbox. They record the claimed outbox rows and the time of every call.
-/

namespace RlmApi

open RunStore

/-! ## The delays -/

/-- The delay after attempt `k`, without the clamp of the exponent. -/
def backoffSeconds (capSeconds : Int) (k : Nat) : Int := min capSeconds (2 ^ (k - 1))

/-- The clamp of the exponent changes no delay under a cap of at most `2 ^ 20`. -/
theorem retryDelaySeconds_backoff {capSeconds : Int} (capped : capSeconds ≤ 2 ^ 20) {k : Nat}
    (claimed : 1 ≤ k) :
    retryDelaySeconds k capSeconds = .ok (backoffSeconds capSeconds k) := by
  have exponent : ((k : Int) - 1).toNat = k - 1 := by omega
  rw [retryDelaySeconds_eq (by exact_mod_cast claimed) capped, exponent]
  rfl

/-- Later attempts do not wait less. -/
theorem backoffSeconds_mono (capSeconds : Int) {k later : Nat} (le : k ≤ later) :
    backoffSeconds capSeconds k ≤ backoffSeconds capSeconds later := by
  have grows : (2 : Int) ^ (k - 1) ≤ 2 ^ (later - 1) :=
    pow_le_pow_right₀ (by decide) (Nat.sub_le_sub_right le 1)
  exact min_le_min_left capSeconds grows

/-! ## Histories of the store -/

/-- The queue with its record, the outbox rows that claims have returned, and the
times of the calls. -/
structure StoreState where
  queue : QueueState
  summaryClaims : List OutboxRow
  times : List Timestamp

/-- What commits at once: a call on the run queue, or a statement on the outbox. -/
inductive StoreCall where
  | run (locked : Str → Bool) (operation : Operation)
  | claimSummary (locked : Str → Bool) (workerId : Str) (staleSeconds : Int)
  | quarantineSummary (runId workerId : Str)
  | completeSummary (item : SummaryOutboxItem)
  | retrySummary (item : SummaryOutboxItem) (publicError : Str)

namespace StoreState

/-- The empty tables. -/
def initial : StoreState := ⟨QueueState.initial, [], []⟩

def outbox (state : StoreState) : Outbox := state.queue.db.side

/-- The claims of one summary, in the order they were made. -/
def summaryClaimsOf (state : StoreState) (runId : Str) : List OutboxRow :=
  state.summaryClaims.filter (fun row => decide (row.runId = runId))

/-- The record of one statement on the outbox. -/
def revised (state : StoreState) (now : Timestamp) (claims : List OutboxRow) (outbox : Outbox) :
    StoreState where
  queue := { state.queue with db := { state.queue.db with side := outbox } }
  summaryClaims := state.summaryClaims ++ claims
  times := state.times ++ [now]

/-- The record of one call on the run queue. -/
def called (state : StoreState) (now : Timestamp) (operation : Operation) (answer : Answer)
    (db : Database) : StoreState where
  queue := state.queue.after now operation answer db
  summaryClaims := state.summaryClaims
  times := state.times ++ [now]

/-- The step function. Owners speak of claims that they received at some time, and
`none` says that the call raises or that there is nothing to claim. -/
def commit (now : Timestamp) (call : StoreCall) (state : StoreState) : Option StoreState :=
  match call with
  | .run locked operation =>
    if QueueState.receivedOnly state.queue operation then
      match perform now locked operation state.queue.db with
      | .ok (answer, db) => some (state.called now operation answer db)
      | .error _ => none
    else none
  | .claimSummary locked workerId staleSeconds =>
    match claimSummaryRow now locked workerId staleSeconds state.outbox with
    | some (row, outbox) => some (state.revised now [row] outbox)
    | none => none
  | .quarantineSummary runId workerId =>
    some (state.revised now [] (quarantineSummaryClaim now runId workerId state.outbox))
  | .completeSummary item =>
    some (state.revised now [] (completeSummary now item state.outbox).2)
  | .retrySummary item publicError =>
    match retrySummary now item publicError state.outbox with
    | .ok (_, outbox) => some (state.revised now [] outbox)
    | .error _ => none

/-- What a step does: the statements of a lease's holder differ only in the version
they write, which keeps the counter. -/
inductive Committed (now : Timestamp) (state : StoreState) : StoreCall → StoreState → Prop
  | run {locked : Str → Bool} {operation : Operation} {answer : Answer} {db : Database}
      (received : QueueState.receivedOnly state.queue operation)
      (performed : perform now locked operation state.queue.db = .ok (answer, db)) :
      Committed now state (.run locked operation) (state.called now operation answer db)
  | claimed {locked : Str → Bool} {workerId : Str} {staleSeconds : Int} {row : OutboxRow}
      {outbox : Outbox}
      (selected :
        claimSummaryRow now locked workerId staleSeconds state.outbox = some (row, outbox)) :
      Committed now state (.claimSummary locked workerId staleSeconds)
        (state.revised now [row] outbox)
  | leased {call : StoreCall} {runId workerId : Str} {version : OutboxRow → OutboxRow}
      (keyed : ∀ row, (version row).runId = row.runId)
      (counted : ∀ row, (version row).attempts = row.attempts) :
      Committed now state call (state.revised now []
        (state.outbox.update runId (summaryLeasedBy workerId) version).2)

theorem committed_of_commit {now : Timestamp} {call : StoreCall} {state state' : StoreState}
    (taken : commit now call state = some state') : Committed now state call state' := by
  cases call with
  | run locked operation =>
    simp only [commit] at taken
    split at taken
    · next received =>
      split at taken
      · next answer db performed =>
        cases taken
        exact .run received performed
      · cases taken
    · cases taken
  | claimSummary locked workerId staleSeconds =>
    simp only [commit] at taken
    split at taken
    · next row outbox selected =>
      cases taken
      exact .claimed selected
    · cases taken
  | quarantineSummary runId workerId =>
    cases taken
    exact .leased (fun _ => rfl) (fun _ => rfl)
  | completeSummary item =>
    cases taken
    exact .leased (fun _ => rfl) (fun _ => rfl)
  | retrySummary item publicError =>
    simp only [commit] at taken
    split at taken
    · next answered outbox released =>
      cases taken
      simp only [retrySummary, except_bind_ok_iff, pure, Except.pure, Except.ok.injEq,
        Prod.mk.injEq] at released
      obtain ⟨delay, -, -, rfl⟩ := released
      exact .leased (fun _ => rfl) (fun _ => rfl)
    · cases taken

/-- One call, of anybody, at any time. -/
def Step (state state' : StoreState) : Prop := ∃ now call, commit now call state = some state'

/-- The states that calls lead to from empty tables. -/
def Reachable (state : StoreState) : Prop := Runs Step initial state

/-- A replayed list of calls reaches the state it computes. -/
theorem reachable_of_replay {calls : List (Timestamp × StoreCall)} {state : StoreState}
    (replayed : replay (fun call => commit call.1 call.2) calls initial = some state) :
    Reachable state :=
  runs_of_replay (fun call _ _ taken => ⟨call.1, call.2, taken⟩) replayed

end StoreState

/-! ## A queued run waits -/

namespace RunChange

variable {now : Timestamp} {action : RunAction} {before after : RunDossier}

/-- Only a failure and a recovery requeue a run, with the delay for the attempts
that the claim, or the row, counts. -/
theorem requeued (change : RunChange now action (some before) after)
    (running : before.row.status = .running) (queued : after.row.status = .queued) :
    ∃ attempts maxAttempts retryable error delay,
      after.row = failedVersion now .queued error delay before.row ∧
      failureStatus attempts maxAttempts retryable = .ok .queued ∧
      retryDelaySeconds attempts runRetryCapSeconds = .ok delay ∧
      ((attempts = before.row.attempts ∧ maxAttempts = before.row.maxAttempts) ∨
        ∃ run arguments, action = .fail run arguments .queued ∧ attempts = run.attempts ∧
          maxAttempts = run.maxAttempts) := by
  cases change with
  | quarantine wanted => cases ((claimable_iff _ _).mp wanted).1.symm.trans running
  | start wanted => cases ((claimable_iff _ _).mp wanted).1.symm.trans running
  | beat leased => cases queued.symm.trans running
  | succeed leased embedded => cases queued
  | @fail _ run arguments next delay status delayed leased =>
    obtain rfl : next = .queued := queued
    exact ⟨_, _, _, _, _, rfl, status, delayed, Or.inr ⟨run, arguments, rfl, rfl, rfl⟩⟩
  | @recover _ staleSeconds next delay stale status delayed =>
    obtain rfl : next = .queued := queued
    exact ⟨_, _, _, _, _, rfl, status, delayed, Or.inl ⟨rfl, rfl⟩⟩
  | report => cases queued.symm.trans running

/-- Nothing but a claim touches the row of a queued run. -/
theorem waiting (change : RunChange now action (some before) after)
    (queued : before.row.status = .queued) :
    after.row = before.row ∨
      claimable now before.row = true ∧ after.row.attempts = before.row.attempts + 1 := by
  cases change with
  | quarantine wanted => exact Or.inr ⟨wanted, rfl⟩
  | start wanted => exact Or.inr ⟨wanted, rfl⟩
  | beat leased => cases queued.symm.trans ((leasedBy_iff _ _).mp leased).1
  | succeed leased => cases queued.symm.trans ((leasedBy_iff _ _).mp leased).1
  | fail status delayed leased => cases queued.symm.trans ((leasedBy_iff _ _).mp leased).1
  | recover stale => cases queued.symm.trans ((isStale_iff _ _ _).mp stale).1
  | report => exact Or.inl rfl

end RunChange

/-- A queued run with attempts left that becomes available at a time. -/
structure RunRow.QueuedUntil (row : RunRow) (available : Timestamp) : Prop where
  status : row.status = .queued
  left : row.attempts < row.maxAttempts
  availableAt : row.availableAt = available

/-- It passes the filter of a claim from that time on, and not before. -/
theorem RunRow.QueuedUntil.claimable_iff {row : RunRow} {available : Timestamp}
    (waits : row.QueuedUntil available) (time : Timestamp) :
    claimable time row = true ↔ available ≤ time := by
  rw [RlmApi.claimable_iff, waits.availableAt]
  constructor
  · rintro ⟨-, reached, -⟩
    exact reached
  · intro reached
    exact ⟨waits.status, reached, waits.left⟩

namespace StoreState

/-- The run has been claimed `k` times and waits until a time, or was claimed again. -/
def RunWaits (state : StoreState) (id : Str) (k : Nat) (available : Timestamp) : Prop :=
  ∃ row, state.queue.db.run? id = some row ∧ k ≤ row.attempts ∧
    (row.attempts = k → row.QueuedUntil available)

/-- A run that waits goes on waiting through every call, unless a claim at or after
the time takes it. -/
theorem runWaits_performed {now : Timestamp} {operation : Operation} {answer : Answer}
    {db db' : Database} (effect : Performed now operation answer db db') {id : Str} {k : Nat}
    {available : Timestamp} {row : RunRow} (found : db.run? id = some row)
    (risen : k ≤ row.attempts) (waits : row.attempts = k → row.QueuedUntil available) :
    ∃ row', db'.run? id = some row' ∧ k ≤ row'.attempts ∧
      (row'.attempts = k → row'.QueuedUntil available) ∧
      (row.attempts = k → row'.attempts ≠ k → available ≤ now) := by
  rcases effect.kept_or_changed found with kept | ⟨action, before, after, -, change, rfl, stored⟩
  · exact ⟨row, kept, risen, waits, fun same other => absurd same other⟩
  · have rises := change.attempts_le
    refine ⟨after.row, stored, le_trans risen rises, ?_, ?_⟩
    · intro same
      have waited := waits (by omega)
      rcases change.waiting waited.status with kept | ⟨-, counted⟩
      · rw [kept]
        exact waited
      · omega
    · intro same other
      have waited := waits same
      rcases change.waiting waited.status with kept | ⟨wanted, -⟩
      · exact absurd (kept ▸ same) other
      · exact (waited.claimable_iff now).mp wanted

end StoreState

/-! ## A released summary waits -/

/-- A pending summary that nobody holds and that becomes available at a time. -/
structure OutboxRow.FreeUntil (row : OutboxRow) (available : Timestamp) : Prop where
  completedAt : row.completedAt = none
  claimedBy : row.claimedBy = none
  claimedAt : row.claimedAt = none
  availableAt : row.availableAt = available

/-- It passes the filter of a claim from that time on, and not before. -/
theorem OutboxRow.FreeUntil.claimable_iff {row : OutboxRow} {available : Timestamp}
    (free : row.FreeUntil available) (time : Timestamp) (staleSeconds : Int) :
    summaryClaimable time staleSeconds row = true ↔ available ≤ time := by
  rw [summaryClaimable_iff, free.availableAt]
  constructor
  · rintro ⟨-, reached, -⟩
    exact reached
  · intro reached
    refine ⟨free.completedAt, reached, fun claimedAt held => ?_⟩
    cases free.claimedAt.symm.trans held

/-- A version of a summary with the same columns of lease and retry. -/
structure SameLease (before after : OutboxRow) : Prop where
  attempts : after.attempts = before.attempts
  availableAt : after.availableAt = before.availableAt
  claimedBy : after.claimedBy = before.claimedBy
  claimedAt : after.claimedAt = before.claimedAt
  completedAt : after.completedAt = before.completedAt

theorem SameLease.refl (row : OutboxRow) : SameLease row row := ⟨rfl, rfl, rfl, rfl, rfl⟩

theorem OutboxRow.FreeUntil.transfer {before after : OutboxRow} {available : Timestamp}
    (free : before.FreeUntil available) (same : SameLease before after) :
    after.FreeUntil available :=
  ⟨same.completedAt.trans free.completedAt, same.claimedBy.trans free.claimedBy,
    same.claimedAt.trans free.claimedAt, same.availableAt.trans free.availableAt⟩

/-- How often the summary of a run was claimed, by the row's own counter. -/
def summaryAttempts (outbox : Outbox) (runId : Str) : Int :=
  (outbox.find? runId).elim 0 OutboxRow.attempts

/-- The upsert of `succeed` leaves the lease of a stored summary alone, and inserts a
summary that was not claimed yet. -/
theorem upsertSummary_lease (now : Timestamp) {row : OutboxRow} (fresh : row.attempts = 0)
    (outbox : Outbox) (id : Str) :
    (∀ stored, outbox.find? id = some stored →
      ∃ version, (upsertSummary now row outbox).find? id = some version ∧
        SameLease stored version) ∧
    summaryAttempts (upsertSummary now row outbox) id = summaryAttempts outbox id := by
  unfold upsertSummary
  split
  · next absent =>
    by_cases same : row.runId = id
    · rw [same] at absent
      refine ⟨fun stored found => ?_, ?_⟩
      · cases absent.symm.trans found
      · simp [summaryAttempts, Table.find?_put, same, absent, fresh]
    · simp only [summaryAttempts, Table.find?_put_ne _ same, and_true]
      exact fun stored found => ⟨stored, found, SameLease.refl stored⟩
  · next stored found =>
    split
    · by_cases same : row.runId = id
      · subst same
        have key : stored.runId = row.runId := Table.find?_key found
        simp only [summaryAttempts, Table.find?_put, key, ↓reduceIte, found, Option.some.injEq]
        refine ⟨fun other same => ⟨_, rfl, ?_⟩, rfl⟩
        subst same
        exact ⟨rfl, rfl, rfl, rfl, rfl⟩
      · have key : stored.runId = row.runId := Table.find?_key found
        have other : stored.runId ≠ id := fun equal => same (key.symm.trans equal)
        simp only [summaryAttempts, Table.find?_put, other, ↓reduceIte, and_true]
        exact fun row kept => ⟨row, kept, SameLease.refl row⟩
    · exact ⟨fun row kept => ⟨row, kept, SameLease.refl row⟩, rfl⟩

/-- So does every call on the run queue. -/
theorem outboxChange_lease (now : Timestamp) (operation : Operation) (answer : Answer)
    (outbox : Outbox) (id : Str) :
    (∀ stored, outbox.find? id = some stored →
      ∃ version, (operation.outboxChange now answer outbox).find? id = some version ∧
        SameLease stored version) ∧
    summaryAttempts (operation.outboxChange now answer outbox) id = summaryAttempts outbox id := by
  have same : (∀ stored, outbox.find? id = some stored →
      ∃ version, outbox.find? id = some version ∧ SameLease stored version) ∧
      summaryAttempts outbox id = summaryAttempts outbox id :=
    ⟨fun row kept => ⟨row, kept, SameLease.refl row⟩, rfl⟩
  unfold Operation.outboxChange
  split
  · next run arguments =>
    cases embeddingParameters run with
    | error error => exact same
    | ok embedding => exact upsertSummary_lease now rfl outbox id
  · exact same

namespace StoreState

variable {state state' : StoreState} {now : Timestamp} {call : StoreCall}

/-- The queue's record is sound, and every summary counts its claims. -/
structure Sound (state : StoreState) : Prop where
  queue : QueueState.Sound state.queue
  counted : ∀ id, summaryAttempts state.outbox id = (state.summaryClaimsOf id).length

theorem Sound.initial : StoreState.initial.Sound := ⟨QueueState.sound_initial, fun _ => rfl⟩

/-- The summary of a claim is counted, and no other. -/
theorem counted_claim {locked : Str → Bool} {workerId : Str} {staleSeconds : Int}
    {outbox outbox' : Outbox} {row : OutboxRow}
    (selected : claimSummaryRow now locked workerId staleSeconds outbox = some (row, outbox'))
    (id : Str) :
    summaryAttempts outbox' id =
      summaryAttempts outbox id + if row.runId = id then 1 else 0 := by
  obtain ⟨candidate, found, -, rfl, rfl⟩ := claimSummaryRow_spec selected
  have key : (claimedSummary now workerId candidate).runId = candidate.runId := rfl
  simp only [summaryAttempts, Table.find?_put, key]
  by_cases same : candidate.runId = id
  · subst same
    simp [found, claimedSummary]
  · simp [same]

/-- A version that keeps the counter is counted as before. -/
theorem counted_update {runId : Str} {guard : OutboxRow → Bool} {version : OutboxRow → OutboxRow}
    (keyed : ∀ row, (version row).runId = row.runId)
    (counted : ∀ row, (version row).attempts = row.attempts) (outbox : Outbox) (id : Str) :
    summaryAttempts (outbox.update runId guard version).2 id = summaryAttempts outbox id := by
  rw [summaryAttempts, summaryAttempts, Table.find?_update outbox runId id keyed]
  cases outbox.find? id with
  | none => rfl
  | some row =>
    simp only [Option.map_some, Option.elim_some]
    split
    · exact counted row
    · rfl

theorem Sound.step (sound : state.Sound) (taken : commit now call state = some state') :
    state'.Sound := by
  cases committed_of_commit taken with
  | @run locked operation answer db received performed =>
    have effect := perform_effect sound.queue.linked performed
    refine ⟨QueueState.sound_step sound.queue (.call received performed), fun id => ?_⟩
    show summaryAttempts db.side id = (state.summaryClaimsOf id).length
    rw [effect.outbox, (outboxChange_lease now operation answer state.queue.db.side id).2]
    exact sound.counted id
  | @claimed locked workerId staleSeconds row outbox selected =>
    refine ⟨⟨sound.queue.linked, sound.queue.runs, sound.queue.recovered⟩, fun id => ?_⟩
    show summaryAttempts outbox id = _
    rw [counted_claim selected, sound.counted]
    by_cases same : row.runId = id <;>
      simp [summaryClaimsOf, revised, List.filter_append, same]
  | leased keyed counted =>
    refine ⟨⟨sound.queue.linked, sound.queue.runs, sound.queue.recovered⟩, fun id => ?_⟩
    show summaryAttempts (state.outbox.update _ _ _).2 id = _
    rw [counted_update keyed counted, sound.counted]
    simp [summaryClaimsOf, revised]

theorem sound_of_reachable (reached : Reachable state) : state.Sound :=
  Runs.keeps reached (fun _ _ sound ⟨_, _, taken⟩ => sound.step taken) Sound.initial

/-! ## Whole histories -/

/-- The summary has been claimed `k` times and is free from a time on, or was
claimed again, no earlier than at that time. -/
def SummaryWaits (state : StoreState) (id : Str) (k : Nat) (available : Timestamp) : Prop :=
  ∃ row, state.outbox.find? id = some row ∧ k ≤ row.attempts ∧
    (row.attempts = k → row.FreeUntil available) ∧
    (row.attempts ≠ k → ∃ time ∈ state.times, available ≤ time)

/-- Every call goes on with the wait of a summary, unless it claims the summary at or
after the time. -/
theorem SummaryWaits.step {id : Str} {k : Nat} {available : Timestamp} (sound : state.Sound)
    (waits : state.SummaryWaits id k available) (taken : commit now call state = some state') :
    state'.SummaryWaits id k available := by
  obtain ⟨row, found, risen, free, claimed⟩ := waits
  have past : row.attempts ≠ k → ∃ time ∈ state.times ++ [now], available ≤ time := by
    intro counted
    obtain ⟨time, earlier, reached⟩ := claimed counted
    exact ⟨time, List.mem_append_left _ earlier, reached⟩
  cases committed_of_commit taken with
  | @run locked operation answer db received performed =>
    have effect := perform_effect sound.queue.linked performed
    have leases := (outboxChange_lease now operation answer state.queue.db.side id).1
    rw [← effect.outbox] at leases
    obtain ⟨version, stored, same⟩ := leases row found
    refine ⟨version, stored, same.attempts ▸ risen, fun counted => ?_, fun counted => ?_⟩
    · exact (free (same.attempts ▸ counted)).transfer same
    · exact past (same.attempts ▸ counted)
  | @claimed locked workerId staleSeconds row' outbox selected =>
    obtain ⟨candidate, stored, wanted, rfl, rfl⟩ := claimSummaryRow_spec selected
    by_cases same : candidate.runId = id
    · subst same
      obtain rfl : row = candidate := Option.some.inj (found.symm.trans stored)
      refine ⟨claimedSummary now workerId row, Table.find?_put_self _ _, ?_, ?_, ?_⟩
      · simp only [claimedSummary]
        omega
      · intro counted
        simp only [claimedSummary] at counted
        omega
      · intro _
        by_cases counted : row.attempts = k
        · exact ⟨now, List.mem_append_right _ (List.mem_singleton_self now),
            ((free counted).claimable_iff now staleSeconds).mp wanted⟩
        · exact past counted
    · have other : (claimedSummary now workerId candidate).runId ≠ id := same
      exact ⟨row, (Table.find?_put_ne _ other).trans found, risen, free, past⟩
  | @leased _ runId workerId version keyed counted =>
    have stored : (state.outbox.update runId (summaryLeasedBy workerId) version).2.find? id = _ :=
      Table.find?_update state.outbox runId id keyed
    rw [found, Option.map_some] at stored
    have kept : ∀ row : OutboxRow, (if id = runId ∧ summaryLeasedBy workerId row = true
        then version row else row).attempts = row.attempts := by
      intro row
      split
      · exact counted row
      · rfl
    refine ⟨_, stored, by rw [kept]; exact risen, fun same => ?_, fun other => ?_⟩
    · have waits := free (by rw [← same, kept])
      rw [if_neg]
      · exact waits
      · simp [summaryLeasedBy, waits.claimedBy]
    · exact past (by rw [← kept row]; exact other)

/-- Every call goes on with the wait of a run, and it does not claim the run before
the time. -/
theorem RunWaits.step {id : Str} {k : Nat} {available : Timestamp} (sound : state.Sound)
    {row : RunRow} (found : state.queue.db.run? id = some row) (risen : k ≤ row.attempts)
    (waits : row.attempts = k → row.QueuedUntil available)
    (taken : commit now call state = some state') :
    ∃ row', state'.queue.db.run? id = some row' ∧ k ≤ row'.attempts ∧
      (row'.attempts = k → row'.QueuedUntil available) ∧
      (row.attempts = k → row'.attempts ≠ k → available ≤ now) := by
  cases committed_of_commit taken with
  | run received performed =>
    exact runWaits_performed (perform_effect sound.queue.linked performed) found risen waits
  | claimed | leased => exact ⟨row, found, risen, waits, fun same other => absurd same other⟩

/-- The call ends attempt `k` of a run and requeues the run. -/
structure Requeues (state state' : StoreState) (id : Str) (k : Nat) : Prop where
  running : ∃ row, state.queue.db.run? id = some row ∧ row.status = .running ∧ row.attempts = k
  queued : ∃ row, state'.queue.db.run? id = some row ∧ row.status = .queued

/-- Only a call on the run queue requeues a run, and by an action of its own. -/
theorem Requeues.changed {id : Str} {k : Nat} (requeues : state.Requeues state' id k)
    (sound : state.Sound) (taken : commit now call state = some state') :
    ∃ locked operation answer action before after,
      call = .run locked operation ∧ QueueState.receivedOnly state.queue operation ∧
      operation.Acts answer id (some action) ∧ RunChange now action (some before) after ∧
      state.queue.db.run? id = some before.row ∧ before.row.status = .running ∧
      before.row.attempts = k ∧ state'.queue.db.run? id = some after.row ∧
      after.row.status = .queued := by
  obtain ⟨⟨row, found, running, counted⟩, row', found', queued⟩ := requeues
  have moved : state'.queue.db.run? id ≠ some row := by
    intro same
    obtain rfl : row' = row := Option.some.inj (found'.symm.trans same)
    cases running.symm.trans queued
  cases committed_of_commit taken with
  | @run locked operation answer db received performed =>
    have effect := perform_effect sound.queue.linked performed
    rcases effect.kept_or_changed found with
      kept | ⟨action, before, after, acts, change, rfl, stored⟩
    · exact absurd kept moved
    · obtain rfl : row' = after.row := Option.some.inj (found'.symm.trans stored)
      exact ⟨locked, operation, answer, action, before, after, rfl, received, acts, change, found,
        running, counted, stored, queued⟩
  | claimed | leased => exact absurd found moved

/-- A failure is reported with the claim of attempt `k`. -/
def ofAttempt (k : Nat) : StoreCall → Prop
  | .run _ (.fail run _) => run.attempts = k
  | _ => True

/-- A requeued run waits for the delay of the attempt that ended. -/
theorem runWaits_of_requeues {id : Str} {k : Nat} (sound : state.Sound)
    (taken : commit now call state = some state') (requeues : state.Requeues state' id k)
    (own : ofAttempt k call) :
    state'.RunWaits id k (now + seconds (backoffSeconds runRetryCapSeconds k)) := by
  obtain ⟨locked, operation, answer, action, before, after, rfl, received, acts, change, found,
    running, counted, found', queued⟩ := requeues.changed sound taken
  obtain ⟨attempts, maxAttempts, retryable, error, delay, version, status, delayed, source⟩ :=
    change.requeued running queued
  have counters : attempts = k ∧ maxAttempts = before.row.maxAttempts := by
    rcases source with ⟨same, limit⟩ | ⟨run, arguments, rfl, same, limit⟩
    · exact ⟨same.trans counted, limit⟩
    · obtain ⟨rfl, rfl⟩ := QueueState.of_acts_fail acts
      obtain ⟨row, kept, bounded, -⟩ := sound.queue.claimed_counters received
      obtain rfl : before.row = row := Option.some.inj (found.symm.trans kept)
      exact ⟨same.trans own, limit.trans bounded⟩
  obtain ⟨rfl, rfl⟩ := counters
  have positive : 1 ≤ k := by
    exact_mod_cast (retryDelaySeconds_ok_iff _ _).mp ⟨delay, delayed⟩
  rw [retryDelaySeconds_backoff (by decide) positive, Except.ok.injEq] at delayed
  have left : (k : Int) < before.row.maxAttempts := by
    rcases failureStatus_cases status with ⟨-, below⟩ | ended
    · exact below
    · cases ended
  refine ⟨after.row, found', ?_, fun _ => ?_⟩
  · rw [version]
    exact counted.ge
  · rw [version, delayed]
    exact ⟨rfl, counted.trans_lt left, rfl⟩

/-- A worker that fails only the claim it received last reports the attempt that ends. -/
theorem ofAttempt_of_latest {locked : Str → Bool} {operation : Operation} {id : Str} {k : Nat}
    (sound : state.Sound) (taken : commit now (.run locked operation) state = some state')
    (requeues : state.Requeues state' id k)
    (latest : QueueState.failsLatest state.queue operation) :
    ofAttempt k (.run locked operation) := by
  cases operation with
  | fail run arguments =>
    obtain ⟨handed, current⟩ := sound.queue.latest_current latest
    obtain ⟨_, _, answer, action, before, after, same, -, acts, change, found, -, counted, -, -⟩ :=
      requeues.changed sound taken
    cases same
    have called := Operation.calledBy_of_acts acts
    cases change with
    | fail status delayed leased =>
      obtain ⟨same, rfl⟩ := QueueState.of_acts_fail acts
      cases same
      obtain ⟨held, kept, -, -, attempts, -⟩ :=
        sound.queue.inLease_of_leased handed current found leased
      obtain rfl : before.row = held := Option.some.inj (found.symm.trans kept)
      exact attempts.symm.trans counted
    | quarantine | start | recover | report =>
      obtain ⟨_, impossible⟩ := called
      cases impossible
    | beat | succeed => cases called
  | enqueue | claim | heartbeat | succeed | recoverStale | report => trivial

/-- The lease of a summary that its holder gives back with the item of claim `k`. -/
structure Releases (state : StoreState) (item : SummaryOutboxItem) (k : Nat) : Prop where
  held : ∃ row, state.outbox.find? item.runId = some row ∧
    summaryLeasedBy item.workerId row = true
  claims : (state.summaryClaimsOf item.runId).length = k
  own : item.attempts = k

/-- A released summary waits for the delay of the claim that was given back. -/
theorem summaryWaits_of_releases {item : SummaryOutboxItem} {publicError : Str} {k : Nat}
    (sound : state.Sound) (taken : commit now (.retrySummary item publicError) state = some state')
    (releases : state.Releases item k) :
    state'.SummaryWaits item.runId k (now + seconds (backoffSeconds 900 k)) := by
  obtain ⟨⟨row, found, held⟩, claims, own⟩ := releases
  have counted : row.attempts = k := by
    have same := sound.counted item.runId
    rw [summaryAttempts, found, Option.elim_some] at same
    rw [same, claims]
  simp only [commit] at taken
  split at taken
  · next answered outbox released =>
    cases taken
    simp only [retrySummary, except_bind_ok_iff, pure, Except.pure, Except.ok.injEq,
      Prod.mk.injEq] at released
    obtain ⟨delay, delayed, -, rfl⟩ := released
    rw [own, summaryRetryDelaySeconds] at delayed
    have positive : 1 ≤ k := by
      exact_mod_cast (retryDelaySeconds_ok_iff _ _).mp ⟨delay, delayed⟩
    rw [retryDelaySeconds_backoff (by decide) positive, Except.ok.injEq] at delayed
    have stored : (state.outbox.update item.runId (summaryLeasedBy item.workerId)
        (retriedSummary now delay publicError)).2.find? item.runId = _ :=
      Table.find?_update state.outbox item.runId item.runId (fun _ => rfl)
    rw [found, Option.map_some, if_pos ⟨rfl, held⟩] at stored
    simp only [summaryLeasedBy, Bool.and_eq_true, Option.isNone_iff_eq_none] at held
    refine ⟨_, stored, counted.ge, fun _ => ?_, fun other => absurd counted other⟩
    rw [delayed]
    exact ⟨held.1, rfl, rfl, rfl⟩
  · cases taken

/-! ## The waits as a history shows them -/

/-- In every later state the run is queued and passes the filter of a claim exactly
from that time on, until its counter rises, and no call raises it earlier. -/
def RunBacksOff (state : StoreState) (id : Str) (k : Nat) (available : Timestamp) : Prop :=
  ∀ later, Runs Step state later → ∃ row, later.queue.db.run? id = some row ∧ k ≤ row.attempts ∧
    (row.attempts = k → row.status = .queued ∧
      ∀ time, claimable time row = true ↔ available ≤ time) ∧
    ∀ time call after row', commit time call later = some after →
      after.queue.db.run? id = some row' → row.attempts = k → row'.attempts ≠ k → available ≤ time

/-- In every later state a claim that takes the summary next, or any that is no
earlier than the calls before it, does not take it before that time. -/
def SummaryBacksOff (state : StoreState) (id : Str) (k : Nat) (available : Timestamp) : Prop :=
  ∀ later, Runs Step state later → ∀ time locked workerId staleSeconds row outbox,
    claimSummaryRow time locked workerId staleSeconds later.outbox = some (row, outbox) →
    row.runId = id → (row.attempts = k + 1 ∨ ∀ earlier ∈ later.times, earlier ≤ time) →
    available ≤ time

theorem runBacksOff_of_waits {id : Str} {k : Nat} {available : Timestamp} (sound : state.Sound)
    (waits : state.RunWaits id k available) : state.RunBacksOff id k available := by
  intro later run
  have kept : ∀ before after : StoreState, before.Sound ∧ before.RunWaits id k available →
      Step before after → after.Sound ∧ after.RunWaits id k available := by
    rintro before after ⟨sound, row, found, risen, waits⟩ ⟨now, call, taken⟩
    obtain ⟨row', found', risen', waits', -⟩ := RunWaits.step sound found risen waits taken
    exact ⟨sound.step taken, row', found', risen', waits'⟩
  obtain ⟨sound, row, found, risen, waits⟩ := Runs.keeps run kept ⟨sound, waits⟩
  refine ⟨row, found, risen, fun counted => ?_, ?_⟩
  · exact ⟨(waits counted).status, (waits counted).claimable_iff⟩
  · intro time call after row' taken found' counted raised
    obtain ⟨other, stored, -, -, reached⟩ := RunWaits.step sound found risen waits taken
    obtain rfl : other = row' := Option.some.inj (stored.symm.trans found')
    exact reached counted raised

theorem summaryBacksOff_of_waits {id : Str} {k : Nat} {available : Timestamp} (sound : state.Sound)
    (waits : state.SummaryWaits id k available) : state.SummaryBacksOff id k available := by
  intro later run time locked workerId staleSeconds row outbox selected same next
  have kept : ∀ before after : StoreState, before.Sound ∧ before.SummaryWaits id k available →
      Step before after → after.Sound ∧ after.SummaryWaits id k available := by
    rintro before after ⟨sound, waits⟩ ⟨now, call, taken⟩
    exact ⟨sound.step taken, waits.step sound taken⟩
  obtain ⟨-, stored, found, -, free, claimed⟩ := Runs.keeps run kept ⟨sound, waits⟩
  obtain ⟨candidate, present, wanted, rfl, -⟩ := claimSummaryRow_spec selected
  obtain rfl : candidate.runId = id := same
  obtain rfl : stored = candidate := Option.some.inj (found.symm.trans present)
  by_cases counted : stored.attempts = k
  · exact ((free counted).claimable_iff time staleSeconds).mp wanted
  · obtain ⟨earlier, called, reached⟩ := claimed counted
    rcases next with first | monotone
    · simp only [claimedSummary] at first
      omega
    · exact le_trans reached (monotone earlier called)

/-- Bounded exponential backoff between consecutive attempts, in every history of
calls: of a run that recovery requeues or that is failed with the claim of the attempt
that ends, as a worker does that fails only the claim it received last, and of a summary
that is given back with the item of its last claim. -/
theorem backoff_between_attempts {state : StoreState} (reached : Reachable state) :
    (∀ now call ended id k, commit now call state = some ended → state.Requeues ended id k →
      ofAttempt k call → ended.RunBacksOff id k (now + seconds (backoffSeconds 300 k))) ∧
    (∀ now locked operation ended id k, commit now (.run locked operation) state = some ended →
      state.Requeues ended id k → QueueState.failsLatest state.queue operation →
      ofAttempt k (.run locked operation)) ∧
    (∀ now item publicError released k,
      commit now (.retrySummary item publicError) state = some released → state.Releases item k →
      released.SummaryBacksOff item.runId k (now + seconds (backoffSeconds 900 k))) ∧
    (∀ k : Nat, 1 ≤ k → retryDelaySeconds k runRetryCapSeconds = .ok (backoffSeconds 300 k) ∧
      summaryRetryDelaySeconds k = .ok (backoffSeconds 900 k)) ∧
    ∀ cap ∈ [300, 900],
      (∀ k later, k ≤ later → backoffSeconds cap k ≤ backoffSeconds cap later) ∧
      ∀ k, 1 ≤ backoffSeconds cap k ∧ backoffSeconds cap k ≤ cap := by
  have sound := sound_of_reachable reached
  refine ⟨?_, ?_, ?_, ?_, ?_⟩
  · intro now call ended id k taken requeues own
    exact runBacksOff_of_waits (sound.step taken) (runWaits_of_requeues sound taken requeues own)
  · intro now locked operation ended id k taken requeues latest
    exact ofAttempt_of_latest sound taken requeues latest
  · intro now item publicError released k taken releases
    exact summaryBacksOff_of_waits (sound.step taken)
      (summaryWaits_of_releases sound taken releases)
  · intro k claimed
    exact ⟨retryDelaySeconds_backoff (by decide) claimed,
      retryDelaySeconds_backoff (by decide) claimed⟩
  · intro cap member
    refine ⟨fun _ _ => backoffSeconds_mono cap, fun k => ⟨?_, min_le_left _ _⟩⟩
    have positive : 1 ≤ cap := by
      simp only [List.mem_cons, List.not_mem_nil, or_false] at member
      omega
    exact le_min positive (one_le_pow₀ (by decide))

/-- A call at a moment at which nobody else holds a row. -/
def alone (operation : Operation) : StoreCall := .run (fun _ => false) operation

/-- The request that allows three attempts is claimed. -/
def claimedOnce : List (Timestamp × StoreCall) :=
  [(0, alone (.enqueue smallId (smallRequest 3))), (seconds 1, alone (.claim (lit "w") 10))]

/-- What one call after a replay does to the run: its status and counter before, and
after, and when it becomes available. -/
def requeueOf (calls : List (Timestamp × StoreCall)) (call : Timestamp × StoreCall) :
    Option (RunStatus × Int × RunStatus × Int × Timestamp) := do
  let state ← replay (fun call => commit call.1 call.2) calls initial
  let ended ← commit call.1 call.2 state
  let before ← state.queue.db.run? smallId.text
  let after ← ended.queue.db.run? smallId.text
  pure (before.status, before.attempts, after.status, after.attempts, after.availableAt)

/-- A requeue that a replay shows is one. -/
theorem requeues_of_requeueOf {calls : List (Timestamp × StoreCall)} {call : Timestamp × StoreCall}
    {k : Nat} {available : Timestamp}
    (shown : requeueOf calls call =
      some (RunStatus.running, (k : Int), RunStatus.queued, (k : Int), available)) :
    ∃ state ended row, replay (fun call => commit call.1 call.2) calls initial = some state ∧
      commit call.1 call.2 state = some ended ∧ state.Requeues ended smallId.text k ∧
      ended.queue.db.run? smallId.text = some row ∧ row.attempts = k ∧
      row.availableAt = available := by
  simp only [requeueOf, Option.bind_eq_bind, Option.bind_eq_some_iff, Option.pure_def,
    Option.some.injEq, Prod.mk.injEq] at shown
  obtain ⟨state, replayed, ended, taken, before, found, after, found', running, counted, queued,
    kept, available⟩ := shown
  exact ⟨state, ended, after, replayed, taken, ⟨⟨before, found, running, counted⟩, after, found',
    queued⟩, found', kept, available⟩

/-- Its lease is recovered a minute later, and it waits for one second. -/
theorem backoff_between_attempts_recovered : ∃ state ended,
    replay (fun call => commit call.1 call.2) claimedOnce initial = some state ∧
    commit (seconds 60) (alone (.recoverStale 30 100)) state = some ended ∧
    ended.RunBacksOff smallId.text 1 (seconds 61) := by
  obtain ⟨state, ended, -, replayed, taken, requeues, -⟩ :=
    @requeues_of_requeueOf claimedOnce (seconds 60, alone (.recoverStale 30 100)) 1 (seconds 61)
      (by rfl)
  refine ⟨state, ended, replayed, taken, ?_⟩
  exact (backoff_between_attempts (reachable_of_replay replayed)).1 (seconds 60) _ ended _ 1 taken
    requeues trivial

/-- The lease is recovered, and the same worker claims the second attempt. -/
def claimedTwice : List (Timestamp × StoreCall) :=
  claimedOnce ++
    [(seconds 60, alone (.recoverStale 30 100)), (seconds 120, alone (.claim (lit "w") 10))]

/-- The run succeeds, and one worker claims its summary twice. -/
def summaryTwice : List (Timestamp × StoreCall) :=
  claimedOnce ++
    [(seconds 2, alone (.succeed (smallClaim (lit "w") 1 3) smallSuccess)),
      (seconds 3, .claimSummary (fun _ => false) (lit "w") 30),
      (seconds 60, .claimSummary (fun _ => false) (lit "w") 30)]

/-- What the worker received with its first claim. -/
def firstItem (state : StoreState) : Option SummaryOutboxItem := do
  let row ← state.summaryClaims.head?
  (decodeSummary row.returning (lit "w")).toOption

/-- The second claim is given back with the first item, and claimed a second later: the
state before, the item, the state after and the row that is claimed. -/
def givenBack : Option (StoreState × SummaryOutboxItem × StoreState × OutboxRow × Outbox) := do
  let state ← replay (fun call => commit call.1 call.2) summaryTwice initial
  let item ← firstItem state
  let released ← commit (seconds 61) (.retrySummary item (lit "error")) state
  let claimed ← claimSummaryRow (seconds 62) (fun _ => false) (lit "v") 30 released.outbox
  pure (state, item, released, claimed)

/-- The second claim is held, and the one after the first item's delay is the third. -/
theorem observed_givenBack :
    givenBack.map (fun shown =>
      ((shown.1.outbox.find? shown.2.1.runId).map (summaryLeasedBy shown.2.1.workerId),
        (shown.1.summaryClaimsOf shown.2.1.runId).length,
        decide (shown.2.2.2.1.runId = shown.2.1.runId), shown.2.2.2.1.attempts)) =
      some (some true, 2, true, 3) := by
  rfl

/-- The statement of the summaries' backoff where the item is any that the holder has
received. -/
def SummariesBackOff : Prop :=
  ∀ state now item publicError released k, Reachable state →
    commit now (.retrySummary item publicError) state = some released →
    (∃ row ∈ state.summaryClaims, decodeSummary row.returning item.workerId = .ok item) →
    (∃ row, state.outbox.find? item.runId = some row ∧
      summaryLeasedBy item.workerId row = true) →
    (state.summaryClaimsOf item.runId).length = k →
    released.SummaryBacksOff item.runId k (now + seconds (backoffSeconds 900 k))

/-- A summary that is given back with the item of an older claim of the same worker waits
for the delay of that one. -/
theorem older_item_shortens_backoff : ¬ SummariesBackOff := by
  intro always
  obtain ⟨⟨state, item, released, row, outbox⟩, shown, observed⟩ :=
    Option.map_eq_some_iff.mp observed_givenBack
  simp only [Prod.mk.injEq, decide_eq_true_eq] at observed
  obtain ⟨leased, claims, same, third⟩ := observed
  obtain ⟨state', replayed, item', first, released', taken, claimed, selected, built⟩ := by
    simpa only [givenBack, Option.bind_eq_bind, Option.bind_eq_some_iff, Option.pure_def,
      Option.some.injEq] using shown
  cases built
  obtain ⟨version, listed, decoded⟩ := Option.bind_eq_some_iff.mp first
  have received := toOption_eq_some.mp decoded
  have worker : item.workerId = lit "w" := ((decodeSummary_ok_iff _ _ _).mp received).2.2
  have bound := always state (seconds 61) item (lit "error") released 2
    (reachable_of_replay replayed) taken
    ⟨version, List.mem_of_head? listed, worker ▸ received⟩ (Option.map_eq_some_iff.mp leased) claims
    released .refl (seconds 62) (fun _ => false) (lit "v") 30 row outbox selected same
    (Or.inl third)
  exact absurd bound (by decide)

/-- A failure reported with an older claim of the same worker ends attempt 2 with the
delay of attempt 1: the run can be claimed after one second and not after two. A summary
that is given back with an older item waits as short. -/
theorem older_claim_shortens_backoff :
    (¬ ∀ state now call ended id k, Reachable state → commit now call state = some ended →
      state.Requeues ended id k →
      ended.RunBacksOff id k (now + seconds (backoffSeconds 300 k))) ∧ ¬ SummariesBackOff := by
  refine ⟨fun never => ?_, older_item_shortens_backoff⟩
  let late := alone (.fail (smallClaim (lit "w") 1 3) QueueState.smallFailure)
  obtain ⟨state, ended, row, replayed, taken, requeues, found, counted, available⟩ :=
    @requeues_of_requeueOf claimedTwice (seconds 130, late) 2 (seconds 131) (by rfl)
  obtain ⟨other, stored, -, filtered, -⟩ := never state (seconds 130) late ended smallId.text 2
    (reachable_of_replay replayed) taken requeues ended .refl
  obtain rfl : row = other := Option.some.inj (found.symm.trans stored)
  obtain ⟨queued, bound⟩ := filtered counted
  obtain ⟨-, -, left⟩ := (claimable_iff _ _).mp ((bound (seconds 132)).mpr (by decide))
  have early : claimable (seconds 131) row = true :=
    (claimable_iff _ _).mpr ⟨queued, available.le, left⟩
  exact absurd ((bound (seconds 131)).mp early) (by decide)

end StoreState

end RlmApi
