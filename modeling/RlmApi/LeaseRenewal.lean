import RlmApi.LeaseFencing

/-!
# Heartbeats keep the lease

A lease ends when its worker ends the run, or when a recovery finds it stale. A recovery
measures against the clock of the database, so what matters is how far apart the
heartbeats and the recoveries are, in whatever order the calls of all the workers come.
-/

namespace RlmApi

open RunStore

namespace QueueState

/-- Calls one after the other, each at its time, whoever holds rows meanwhile. -/
inductive Calls : QueueState → List (Timestamp × Operation) → QueueState → Prop
  | none {state : QueueState} : Calls state [] state
  | call {state later : QueueState} {now : Timestamp} {locked : Str → Bool}
      {operation : Operation} {answer : Answer} {db : Database}
      {rest : List (Timestamp × Operation)}
      (performed : perform now locked operation state.db = .ok (answer, db))
      (continued : Calls (state.after now operation answer db) rest later) :
      Calls state ((now, operation) :: rest) later

/-- A claim of the same run by the same worker. -/
def sameLease (run other : ClaimedRun) : Bool :=
  other.id = run.id && other.workerId = run.workerId

theorem sameLease_iff {run other : ClaimedRun} :
    sameLease run other = true ↔ other.id = run.id ∧ other.workerId = run.workerId := by
  simp [sameLease]

/-- The last sign of life once the call is made. -/
def beatenAfter (run : ClaimedRun) (beaten : Timestamp) (now : Timestamp) :
    Operation → Timestamp
  | .heartbeat other => if sameLease run other then now else beaten
  | _ => beaten

/-- The call does not end the run for its worker, and is no recovery more than its
`stale_seconds` after the last sign of life. -/
def spares (run : ClaimedRun) (beaten : Timestamp) (now : Timestamp) : Operation → Bool
  | .succeed other _ | .fail other _ => !sameLease run other
  | .recoverStale staleSeconds _ => now ≤ beaten + seconds staleSeconds
  | _ => true

/-- Every call of the list spares the lease. -/
def Punctual (run : ClaimedRun) : Timestamp → List (Timestamp × Operation) → Prop
  | _, [] => True
  | beaten, (now, operation) :: rest =>
    spares run beaten now operation = true ∧
      Punctual run (beatenAfter run beaten now operation) rest

/-- The run is in the lease that the claim granted, with its last sign of life. -/
structure Renewed (run : ClaimedRun) (beaten : Timestamp) (row : RunRow) : Prop where
  leased : leasedBy run.workerId row = true
  attempts : row.attempts = run.attempts
  beaten : row.workerHeartbeatAt = some beaten

section Steps

variable {state later : QueueState} {run : ClaimedRun} {beaten now : Timestamp}
  {locked : Str → Bool} {operation : Operation} {answer : Answer} {db : Database}

/-- A heartbeat for a leased row is answered so. -/
theorem heartbeat_leased {other : ClaimedRun} {row : RunRow}
    (found : db.run? other.id = some row) (leased : leasedBy other.workerId row = true) :
    perform now locked (.heartbeat other) db =
      .ok (.beaten true, { db with table := db.table.put (beatVersion now row) }) := by
  have stored : db.table.find? other.id = some row := found
  simp only [perform, Operation.transaction, heartbeat, Transaction.map, Transaction.execute,
    stored, Option.filter_some, leased, if_true]
  rfl

/-- An owner's call acts on the run that it is about. -/
theorem id_of_acts {id : Str} {action : RunAction} {other : ClaimedRun}
    (acts : operation.Acts answer id (some action)) (about : subject operation = some other) :
    id = other.id := by
  cases operation with
  | heartbeat | succeed =>
    cases about
    cases answer <;> simp only [Operation.Acts, Option.some_eq_ite_none_right] at acts
    exact acts.1.2
  | fail =>
    cases about
    cases answer with
    | failed next =>
      cases next <;> simp only [Operation.Acts, Option.some_eq_ite_none_right] at acts
      · cases acts
      · exact acts.1
    | enqueued | claimed | beaten | succeeded | recovered | reported => cases acts
  | enqueue | claim | recoverStale | report => cases about

/-- An action of a call that spares the lease leaves the run in it. -/
theorem Renewed.changed {before after : RunDossier} {action : RunAction}
    (renewed : Renewed run beaten before.row) (spared : spares run beaten now operation = true)
    (acts : operation.Acts answer run.id (some action))
    (change : RunChange now action (some before) after) :
    Renewed run (beatenAfter run beaten now operation) after.row ∧ action.claims = [] := by
  obtain ⟨running, worker⟩ := (leasedBy_iff _ _).mp renewed.leased
  have called := Operation.calledBy_of_acts acts
  have owned {other : ClaimedRun} (leased : leasedBy other.workerId before.row = true)
      (about : subject operation = some other) : sameLease run other = true := by
    have same := ((leasedBy_iff _ _).mp leased).2.symm.trans worker
    exact sameLease_iff.mpr ⟨(id_of_acts acts about).symm, Option.some.inj same⟩
  cases change with
  | quarantine wanted undecodable =>
    cases running.symm.trans ((claimable_iff _ _).mp wanted).1
  | start wanted decoded =>
    cases running.symm.trans ((claimable_iff _ _).mp wanted).1
  | @beat _ other leased =>
    obtain rfl : operation = .heartbeat other := called
    have mine := owned leased rfl
    simp only [beatenAfter, mine, if_true]
    exact ⟨⟨renewed.leased, renewed.attempts, rfl⟩, rfl⟩
  | @succeed _ other arguments embedding leased embedded =>
    obtain rfl : operation = .succeed other arguments := called
    simp [spares, owned leased rfl] at spared
  | @fail _ other arguments next delay status delayed leased =>
    obtain rfl : operation = .fail other arguments := called
    simp [spares, owned leased rfl] at spared
  | @recover _ staleSeconds next delay stale status delayed =>
    obtain ⟨batchSize, rfl⟩ := called
    obtain ⟨-, late⟩ := (isStale_iff _ _ _).mp stale
    have late : beaten < now - seconds staleSeconds := by
      simpa [staleAt, renewed.beaten] using late
    have early : now ≤ beaten + seconds staleSeconds := of_decide_eq_true spared
    exact absurd early (not_le.mpr (lt_sub_iff_add_lt.mp late))
  | @report _ payload =>
    obtain ⟨other, rfl⟩ := called
    exact ⟨renewed, rfl⟩

/-- A call that leaves the run alone is no heartbeat of its worker. -/
theorem beatenAfter_of_idle {row : RunRow} (found : state.db.run? run.id = some row)
    (leased : leasedBy run.workerId row = true)
    (performed : perform now locked operation state.db = .ok (answer, db))
    (acts : operation.Acts answer run.id none) :
    beatenAfter run beaten now operation = beaten := by
  cases operation with
  | heartbeat other =>
    cases mine : sameLease run other with
    | false => simp only [beatenAfter, mine, Bool.false_eq_true, if_false]
    | true =>
      obtain ⟨sameRun, sameWorker⟩ := sameLease_iff.mp mine
      rw [heartbeat_leased (sameRun ▸ found) (sameWorker ▸ leased)] at performed
      cases performed
      simp [Operation.Acts, sameRun] at acts
  | enqueue | claim | succeed | fail | recoverStale | report => rfl

/-- A call that spares the lease leaves the run in it, and hands out no claim of the run. -/
theorem Renewed.call {row : RunRow} (renewed : Renewed run beaten row) (sound : Sound state)
    (found : state.db.run? run.id = some row) (spared : spares run beaten now operation = true)
    (performed : perform now locked operation state.db = .ok (answer, db)) :
    (∃ row', db.run? run.id = some row' ∧ Renewed run (beatenAfter run beaten now operation) row') ∧
      (state.after now operation answer db).claimsOf run.id = state.claimsOf run.id := by
  have effect := perform_effect sound.linked performed
  obtain ⟨before, dossier, rfl⟩ := run?_eq_some_iff.mp found
  obtain ⟨action, acts, acted⟩ := effect.acted run.id
  have extended : (state.after now operation answer db).claimsOf run.id =
      state.claimsOf run.id ++ actionClaims action := by
    rw [← handed_of_acts acts]
    simp [claimsOf, QueueState.after]
  rw [dossier] at acted
  cases action with
  | none =>
    rw [beatenAfter_of_idle found renewed.leased performed acts]
    exact ⟨⟨_, run?_eq_some_iff.mpr ⟨before, acted, rfl⟩, renewed⟩,
      extended.trans (List.append_nil _)⟩
  | some action =>
    obtain ⟨after, written, change⟩ := acted
    obtain ⟨kept, none⟩ := renewed.changed spared acts change
    refine ⟨⟨_, run?_eq_some_iff.mpr ⟨after, written, rfl⟩, kept⟩, ?_⟩
    rw [extended, actionClaims, none, List.append_nil]

/-- Calls that spare the lease leave the run in it. -/
theorem Renewed.calls {row : RunRow} {calls : List (Timestamp × Operation)}
    (made : Calls state calls later) (sound : Sound state)
    (found : state.db.run? run.id = some row) (renewed : Renewed run beaten row)
    (punctual : Punctual run beaten calls) :
    Sound later ∧ later.claimsOf run.id = state.claimsOf run.id ∧
      ∃ row' beaten', later.db.run? run.id = some row' ∧ Renewed run beaten' row' := by
  induction made generalizing beaten row with
  | none => exact ⟨sound, rfl, row, beaten, found, renewed⟩
  | @call state later now locked operation answer db rest performed continued
      inductionHypothesis =>
    obtain ⟨spared, punctual⟩ := punctual
    obtain ⟨⟨row', found', renewed'⟩, same⟩ := renewed.call sound found spared performed
    have effect := perform_effect sound.linked performed
    obtain ⟨sound', claims, kept⟩ :=
      inductionHypothesis (sound.performed effect) found' renewed' punctual
    exact ⟨sound', claims.trans same, kept⟩

/-- A claim hands out a run in the lease that it grants. -/
theorem Renewed.claimed {workerId : Str} {maxQuarantined : Int} (sound : Sound state)
    (performed : perform now locked (.claim workerId maxQuarantined) state.db =
      .ok (.claimed (some run), db)) :
    ∃ row, db.run? run.id = some row ∧ Renewed run now row := by
  have effect := perform_effect sound.linked performed
  obtain ⟨earlier, dossier, written, change⟩ := effect.starts (List.mem_singleton.mpr rfl)
  obtain ⟨decoded, -, version⟩ := change.started
  refine ⟨dossier.row, run?_eq_some_iff.mpr ⟨dossier, written, rfl⟩, ?_⟩
  rw [version]
  exact ⟨(leasedBy_iff _ _).mpr ⟨rfl, rfl⟩, decoded.attempts.symm, rfl⟩

/-- No recovery has ended the lease that a run is in. -/
theorem Renewed.inLease {row : RunRow} (renewed : Renewed run beaten row) (sound : Sound state)
    (found : state.db.run? run.id = some row) : state.InLease run := by
  obtain ⟨running, worker⟩ := (leasedBy_iff _ _).mp renewed.leased
  refine ⟨row, found, running, worker, renewed.attempts, fun ended => ?_⟩
  obtain ⟨other, stored, -, stopped⟩ := sound.recovered _ _ ended
  obtain ⟨stored', same, rfl⟩ := run?_eq_some_iff.mp found
  obtain rfl : other = stored' := Option.some.inj (stored.symm.trans same)
  have below := stopped running
  have equal := renewed.attempts
  omega

/-- A worker whose heartbeats come in time keeps its lease: from its claim on, through
calls of anyone in any order, the run stays in the lease and is handed to nobody else, and
the next heartbeat is answered so. -/
theorem heartbeats_keep_lease {workerId : Str} {maxQuarantined : Int}
    {calls : List (Timestamp × Operation)} (reached : Reachable anyCall state)
    (claimed : perform now locked (.claim workerId maxQuarantined) state.db =
      .ok (.claimed (some run), db))
    (made : Calls (state.after now (.claim workerId maxQuarantined) (.claimed (some run)) db) calls
      later)
    (punctual : Punctual run now calls) :
    later.InLease run ∧ later.claimsOf run.id = state.claimsOf run.id ++ [run] ∧
      ∀ now locked, ∃ db,
        perform now locked (.heartbeat run) later.db = .ok (.beaten true, db) := by
  have sound := sound_of_reachable reached
  have effect := perform_effect sound.linked claimed
  obtain ⟨granted, stored, renewed⟩ := Renewed.claimed sound claimed
  obtain ⟨sound', claims, row, beaten, found, kept⟩ :=
    renewed.calls made (sound.performed effect) stored punctual
  refine ⟨kept.inLease sound' found, ?_,
    fun now locked => ⟨_, heartbeat_leased found kept.leased⟩⟩
  rw [claims]
  simp [claimsOf, QueueState.after, Answer.handed]

end Steps

/-! ## A lease renewed once -/

/-- Replayed calls are made one after the other. -/
theorem calls_of_replay {calls : List (Timestamp × Operation)} {state later : QueueState}
    (replayed : replay (next anyCall) calls state = some later) : Calls state calls later := by
  induction calls generalizing state with
  | nil =>
    cases replayed
    exact .none
  | cons call rest inductionHypothesis =>
    obtain ⟨middle, taken, remaining⟩ := Option.bind_eq_some_iff.mp replayed
    unfold next at taken
    split at taken
    · split at taken
      · next answer db performed =>
        cases taken
        exact .call performed (inductionHypothesis remaining)
      · cases taken
    · cases taken

/-- Recoveries every twenty seconds, and one heartbeat between them. -/
def renewedOnce : List (Timestamp × Operation) :=
  [(seconds 20, .recoverStale 30 100), (seconds 25, .heartbeat (smallClaim (lit "w") 1 2)),
    (seconds 40, .recoverStale 30 100), (seconds 55, .recoverStale 30 100)]

theorem heartbeats_keep_lease_renewed : ∃ (state : QueueState) (db : Database) (later : QueueState),
    perform (seconds 1) (fun _ => false) (.claim (lit "w") 10) state.db =
      .ok (.claimed (some (smallClaim (lit "w") 1 2)), db) ∧
    later.InLease (smallClaim (lit "w") 1 2) ∧
    later.claimsOf smallId.text = state.claimsOf smallId.text ++ [smallClaim (lit "w") 1 2] ∧
    ∀ now locked, ∃ db, perform now locked (.heartbeat (smallClaim (lit "w") 1 2)) later.db =
      .ok (.beaten true, db) := by
  have run : ∃ (state : QueueState) (db : Database) (later : QueueState),
      replay (next anyCall) (reclaimed.take 1) initial = some state ∧
      perform (seconds 1) (fun _ => false) (.claim (lit "w") 10) state.db =
        .ok (.claimed (some (smallClaim (lit "w") 1 2)), db) ∧
      replay (next anyCall) renewedOnce
        (state.after (seconds 1) (.claim (lit "w") 10)
          (.claimed (some (smallClaim (lit "w") 1 2))) db) = some later :=
    ⟨_, _, _, rfl, rfl, rfl⟩
  obtain ⟨state, db, later, replayed, claimed, renewed⟩ := run
  have punctual : Punctual (smallClaim (lit "w") 1 2) (seconds 1) renewedOnce := by
    simp [Punctual, renewedOnce, spares, beatenAfter, sameLease, seconds]
  exact ⟨state, db, later, claimed, heartbeats_keep_lease (reachable_of_replay replayed) claimed
    (calls_of_replay renewed) punctual⟩

end QueueState

end RlmApi
