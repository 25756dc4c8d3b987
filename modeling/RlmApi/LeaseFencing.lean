import RlmApi.QueueHistory

/-!
# Lease fencing

A worker names its lease by the run and its own id; the attempt is not part of
the guard. The guard still identifies the lease, because a row that runs under a
worker is in the lease that the run's last claim granted, and a worker that
speaks only of the claim it received last cannot mean an earlier one.
-/

namespace RlmApi

open RunStore

/-! ## The order of a run's claims -/

/-- The attempts of a run's claims increase. -/
theorem Numbered.increasing {claims : List ClaimedRun} (numbered : Numbered claims) :
    claims.Pairwise (fun first second => first.attempts < second.attempts) := by
  have ordered : (claims.map ClaimedRun.attempts).Pairwise (· < ·) := by
    rw [show claims.map ClaimedRun.attempts = _ from numbered, List.pairwise_map]
    have naturals : (List.range' 1 claims.length).Pairwise (· < ·) := List.pairwise_lt_range'
    exact naturals.imp Int.ofNat_lt.mpr
  exact List.pairwise_map.mp ordered

/-- Attempts are counted from one up to the number of claims. -/
theorem Numbered.bounds {claims : List ClaimedRun} (numbered : Numbered claims) {run : ClaimedRun}
    (member : run ∈ claims) : 1 ≤ run.attempts ∧ run.attempts ≤ claims.length := by
  have listed : run.attempts ∈ claims.map ClaimedRun.attempts := List.mem_map_of_mem member
  rw [show claims.map ClaimedRun.attempts = _ from numbered] at listed
  obtain ⟨attempt, within, equal⟩ := List.mem_map.mp listed
  rw [List.mem_range'_1] at within
  rw [← equal]
  simp only [Int.ofNat_eq_natCast]
  omega

/-- The last claim of a run carries as its attempt the number of claims. -/
theorem Numbered.last {claims : List ClaimedRun} (numbered : Numbered claims) {run : ClaimedRun}
    (ends : claims.getLast? = some run) : run.attempts = claims.length := by
  obtain ⟨earlier, rfl⟩ := List.getLast?_eq_some_iff.mp ends
  have counted : _ = _ := numbered
  simp only [List.map_append, List.map_cons, List.map_nil, List.length_append, List.length_cons,
    List.length_nil, Nat.zero_add, List.range'_concat] at counted
  have final := (List.append_inj' counted rfl).2
  simp only [List.cons.injEq, and_true] at final
  simp [final, Nat.add_comm]

/-- In a list of increasing attempts none exceeds the last. -/
theorem le_last_of_increasing {claims : List ClaimedRun} {run last : ClaimedRun}
    (increasing : claims.Pairwise (fun first second => first.attempts < second.attempts))
    (member : run ∈ claims) (ends : claims.getLast? = some last) :
    run.attempts ≤ last.attempts := by
  obtain ⟨earlier, rfl⟩ := List.getLast?_eq_some_iff.mp ends
  rcases List.mem_append.mp member with before | final
  · exact Int.le_of_lt ((List.pairwise_append.mp increasing).2.2 run before last (by simp))
  · rw [List.mem_singleton.mp final]

namespace QueueState

variable {state : QueueState} {run : ClaimedRun}

/-- The run is still in the very lease the claim granted. -/
def InLease (state : QueueState) (run : ClaimedRun) : Prop :=
  ∃ row, state.db.run? run.id = some row ∧ row.status = .running ∧
    row.workerId = some run.workerId ∧ row.attempts = run.attempts ∧
    (run.id, run.attempts) ∉ state.recovered

/-- The same run was handed to the same worker again. -/
def Superseded (state : QueueState) (run : ClaimedRun) : Prop :=
  ∃ later ∈ state.handed, later.id = run.id ∧ later.workerId = run.workerId ∧
    run.attempts < later.attempts

/-- A worker's latest claim was handed out and is not superseded: among the claims
of its run that this worker received it is the last, and their attempts increase. -/
theorem Sound.latest_current (sound : Sound state)
    (latest : state.latest run.workerId = some run) :
    run ∈ state.handed ∧ ¬ state.Superseded run := by
  refine ⟨(List.mem_filter.mp (List.mem_of_getLast? latest)).1, ?_⟩
  rintro ⟨later, handed, sameRun, sameWorker, exceeds⟩
  obtain ⟨earlier, received⟩ := List.getLast?_eq_some_iff.mp latest
  have ofRun : (state.claimsOf run.id).filter
      (fun other => decide (other.workerId = run.workerId)) =
        earlier.filter (fun other => decide (other.id = run.id)) ++ [run] := by
    rw [claimsOf, List.filter_comm, received]
    simp
  have increasing := (sound.accounted.numbered run.id).increasing.filter
    (fun other => decide (other.workerId = run.workerId))
  have member : later ∈ (state.claimsOf run.id).filter
      (fun other => decide (other.workerId = run.workerId)) := by
    simp [claimsOf, handed, sameRun, sameWorker]
  have ends : ((state.claimsOf run.id).filter
      (fun other => decide (other.workerId = run.workerId))).getLast? = some run := by
    simp [ofRun]
  have bounded := le_last_of_increasing increasing member ends
  omega

/-- A running row is in the lease of its run's last claim. -/
theorem Sound.holder (sound : Sound state) {id : Str} {row : RunRow}
    (found : state.db.run? id = some row) (running : row.status = .running) :
    ∃ holder, (state.claimsOf id).getLast? = some holder ∧ row.workerId = some holder.workerId ∧
      row.attempts = holder.attempts ∧ row.maxAttempts = holder.maxAttempts := by
  obtain ⟨dossier, kept, rfl⟩ := run?_eq_some_iff.mp found
  have history := sound.runs id
  rw [kept] at history
  obtain ⟨journal, numbered, limits⟩ := history
  have word := journal.word
  rw [running, List.length_map] at word
  obtain ⟨rounds, -, counted, attempts, -, -⟩ := word.of_running
  cases ends : (state.claimsOf id).getLast? with
  | none =>
    rw [List.getLast?_eq_none_iff] at ends
    rw [ends] at counted
    cases counted
  | some holder =>
    refine ⟨holder, rfl, ?_, ?_, (limits holder (List.mem_of_getLast? ends)).symm⟩
    · rw [journal.holder running, List.getLast?_map, ends]
      rfl
    · rw [numbered.last ends, attempts, counted]
      rfl

/-- A handed claim carries the limit of its run and counters that fit it. -/
theorem Sound.claimed_counters (sound : Sound state) (handed : run ∈ state.handed) :
    ∃ row, state.db.run? run.id = some row ∧ run.maxAttempts = row.maxAttempts ∧
      1 ≤ run.attempts ∧ run.attempts ≤ run.maxAttempts := by
  have member : run ∈ state.claimsOf run.id := by simp [claimsOf, handed]
  have history := sound.runs run.id
  cases kept : state.db.dossier? run.id with
  | none =>
    rw [kept] at history
    rw [show state.claimsOf run.id = [] from history] at member
    exact absurd member List.not_mem_nil
  | some dossier =>
    rw [kept] at history
    obtain ⟨journal, numbered, limits⟩ := history
    have counted := journal.word.attempts_bounds.1
    have bounded := journal.bounded
    have limit := limits run member
    obtain ⟨positive, atMost⟩ := numbered.bounds member
    rw [List.length_map] at counted
    exact ⟨_, run?_eq_some_iff.mpr ⟨dossier, kept, rfl⟩, limit, positive, by omega⟩

/-- The guard of the owner's statements identifies the lease. -/
theorem Sound.inLease_of_leased (sound : Sound state) (handed : run ∈ state.handed)
    (current : ¬ state.Superseded run) {row : RunRow} (found : state.db.run? run.id = some row)
    (leased : leasedBy run.workerId row = true) : state.InLease run := by
  obtain ⟨running, worker⟩ := (leasedBy_iff _ _).mp leased
  obtain ⟨holder, ends, owner, attempts, -⟩ := sound.holder found running
  have sameWorker : holder.workerId = run.workerId := by
    rw [owner, Option.some.injEq] at worker
    exact worker
  have holderMember := List.mem_filter.mp (List.mem_of_getLast? ends)
  have member : run ∈ state.claimsOf run.id := by simp [claimsOf, handed]
  have atMost := le_last_of_increasing (sound.accounted.numbered run.id).increasing member ends
  have atLeast : ¬ run.attempts < holder.attempts := fun below =>
    current ⟨holder, holderMember.1, by simpa using holderMember.2, sameWorker, below⟩
  have same : row.attempts = run.attempts := by omega
  refine ⟨row, found, running, worker, same, fun ended => ?_⟩
  obtain ⟨dossier, kept, -, stopped⟩ := sound.recovered _ _ ended
  obtain ⟨stored, kept', rfl⟩ := run?_eq_some_iff.mp found
  obtain rfl : dossier = stored := Option.some.inj (kept.symm.trans kept')
  have below := stopped running
  omega

end QueueState

/-! ## Calls on a run the worker does not hold -/

section Unowned

variable {now : Timestamp} {locked : Str → Bool} {db : Database} {run : ClaimedRun}

/-- No row is running under the claim's worker. -/
def Unowned (db : Database) (run : ClaimedRun) : Prop :=
  (db.table.find? run.id).filter (leasedBy run.workerId) = none

theorem heartbeat_unowned (lost : Unowned db run) :
    perform now locked (.heartbeat run) db = .ok (.beaten false, db) := by
  simp only [perform, Operation.transaction, heartbeat, Transaction.map, Transaction.execute,
    show _ = none from lost]
  rfl

theorem succeed_unowned (lost : Unowned db run) (arguments : SucceedArguments) :
    perform now locked (.succeed run arguments) db = .ok (.succeeded false, db) := by
  simp only [perform, Operation.transaction, succeed, Transaction.map, Transaction.execute,
    show _ = none from lost]

theorem fail_unowned (lost : Unowned db run)
    (counters : 1 ≤ run.attempts ∧ run.attempts ≤ run.maxAttempts) (arguments : FailArguments) :
    perform now locked (.fail run arguments) db = .ok (.failed none, db) := by
  obtain ⟨next, status⟩ := (failureStatus_ok_iff _ _ arguments.retryable).mpr counters
  obtain ⟨delay, delayed⟩ := (retryDelaySeconds_ok_iff _ runRetryCapSeconds).mpr counters.1
  simp only [perform, Operation.transaction, fail, status, delayed, Transaction.map,
    Transaction.execute, show _ = none from lost]

end Unowned

namespace QueueState

variable {state : QueueState} {run : ClaimedRun}

/-- The claim an owner's call is about. -/
def subject : Operation → Option ClaimedRun
  | .heartbeat run | .succeed run _ | .fail run _ => some run
  | .enqueue _ _ | .claim _ _ | .recoverStale _ _ | .report _ _ => none

/-- The answer of an owner's call for a run that is not owned. -/
def refusal : Operation → Answer
  | .heartbeat _ => .beaten false
  | .succeed _ _ => .succeeded false
  | _ => .failed none

/-- A call about a claim that was not superseded has an effect only in the lease
the claim granted. -/
theorem Sound.fenced {operation : Operation} (sound : Sound state) (handed : run ∈ state.handed)
    (current : ¬ state.Superseded run) (about : subject operation = some run)
    (lost : ¬ state.InLease run) (now : Timestamp) (locked : Str → Bool) :
    perform now locked operation state.db = .ok (refusal operation, state.db) := by
  obtain ⟨row, found, -, counters⟩ := sound.claimed_counters handed
  have unowned : Unowned state.db run := by
    rw [Unowned, show state.db.table.find? run.id = some row from found,
      Option.filter_eq_none_iff]
    intro stored same leased
    obtain rfl : row = stored := Option.some.inj same
    exact lost (sound.inLease_of_leased handed current found leased)
  cases operation with
  | heartbeat =>
    obtain rfl := Option.some.inj about
    exact heartbeat_unowned unowned
  | succeed =>
    obtain rfl := Option.some.inj about
    exact succeed_unowned unowned _
  | fail =>
    obtain rfl := Option.some.inj about
    exact fail_unowned unowned counters _
  | enqueue | claim | recoverStale | report => cases about

/-- Lease fencing, over every history of disciplined workers: a call that the
discipline permits has an effect only in the very lease that its claim granted.
In every other case it answers that the run is not owned and leaves the runs,
the outbox and the events as they were. -/
theorem lease_fencing {operation : Operation} (reached : Reachable Disciplined state)
    (permitted : Disciplined state operation) (about : subject operation = some run)
    (lost : ¬ state.InLease run) (now : Timestamp) (locked : Str → Bool) :
    perform now locked operation state.db = .ok (refusal operation, state.db) := by
  have sound := sound_of_reachable reached
  have latest : state.latest run.workerId = some run := by
    cases operation with
    | heartbeat | succeed | fail => exact Option.some.inj about ▸ permitted
    | enqueue | claim | recoverStale | report => cases about
  obtain ⟨handed, current⟩ := sound.latest_current latest
  exact sound.fenced handed current about lost now locked

/-- Claimed, lost to recovery, and then reported alive by the worker that lost it. -/
theorem lease_fencing_recovered : ∃ state,
    replay (next Disciplined) (reclaimed.take 3) initial = some state ∧
      perform (seconds 90) (fun _ => false) (.heartbeat (smallClaim (lit "w") 1 2)) state.db =
        .ok (.beaten false, state.db) := by
  have ran : (replay (next Disciplined) (reclaimed.take 3) initial).map
      (fun state => (state.latest (lit "w"), (state.db.run? smallId.text).map RunRow.status)) =
        some (some (smallClaim (lit "w") 1 2), some .queued) := by rfl
  obtain ⟨state, replayed, observed⟩ := Option.map_eq_some_iff.mp ran
  obtain ⟨latest, status⟩ := Prod.mk.inj observed
  have permitted : Disciplined state (.heartbeat (smallClaim (lit "w") 1 2)) := latest
  refine ⟨state, replayed, lease_fencing (reachable_of_replay replayed) permitted rfl ?_ _ _⟩
  rintro ⟨row, found, running, -⟩
  rw [show state.db.run? smallId.text = some row from found] at status
  simp [running] at status

end QueueState

end RlmApi
