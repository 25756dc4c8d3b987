import RlmApi.OrderedBatches
import RlmApi.QueueHistory

/-!
# A claim is an ordered dequeue

With no other transaction at work, the rows that may be claimed form a queue in
the order of `_CLAIM_RUN_SQL`, and `claim` works on its front: it quarantines rows
that do not decode and takes the first that does, looking at no more than
`max_quarantined` rows. `dequeue` states this on lists. `execute_claimLoop` shows
that the loop of `claim`, which selects from the table that it changes, computes
it: every round writes a version of the queue's head that is no longer queued.

Rows may hold anything the column types admit. Exhausted resources of the
interpreter are outside this development.
-/

namespace RlmApi

open RunStore
open Table (unlocked select_unlocked)

variable {now : Timestamp} {workerId : Str} {db : Database}

/-- The comparison of `ORDER BY available_at, created_at`. -/
theorem claimOrder_iff (a b : RunRow) : claimOrder a b = true ↔
    a.availableAt < b.availableAt ∨ a.availableAt = b.availableAt ∧ a.createdAt ≤ b.createdAt := by
  simp [claimOrder]

theorem claimOrder_ranks : Ranks claimOrder := Ranks.lexicographic claimOrder_iff

/-- With distinct pairs of `available_at` and `created_at` the order has no ties. -/
theorem claimOrder_resolved
    (distinct : (db.table.rows.map (fun row => (row.availableAt, row.createdAt))).Nodup) :
    db.table.Resolved (claimable now) claimOrder := by
  intro a inFirst b inSecond _ _ early late
  obtain ⟨due, created⟩ := tie_of_lexicographic claimOrder_iff early late
  exact List.inj_on_of_nodup_map distinct inFirst inSecond (Prod.ext due created)

/-- The queued rows that are due and have attempts left, in the order of claims. -/
def eligible (now : Timestamp) (db : Database) : List RunRow :=
  db.table.ordered (claimable now) claimOrder

/-- What `decode_claimed_run` makes of a row that the claim marked running. -/
def decodeCandidate (now : Timestamp) (workerId : Str) (row : RunRow) : Except PyError ClaimedRun :=
  decodeClaimedRun (claimedVersion now workerId row).returning workerId

/-- The row does not decode, with an exception that `claim` catches. -/
def Refused (now : Timestamp) (workerId : Str) (row : RunRow) : Prop :=
  ∃ error, decodeCandidate now workerId row = .error error ∧ error.isDecodeError = true

/-- A quarantined row with its event. -/
def quarantineRevision (now : Timestamp) (workerId : Str) (row : RunRow) : RunRow × EventBody :=
  (quarantinedVersion now (claimedVersion now workerId row), ⟨.failed, .obj quarantinePayload⟩)

/-- A started row with its event. -/
def startRevision (now : Timestamp) (workerId : Str) (row : RunRow) (run : ClaimedRun) :
    RunRow × EventBody :=
  (claimedVersion now workerId row, ⟨.started, .obj (startedPayload run.attempts workerId)⟩)

theorem refused_of_error {row : RunRow} {error : PyError}
    (undecodable : decodeCandidate now workerId row = .error error) :
    Refused now workerId row :=
  ⟨error, undecodable, decodeClaimedRun_raises _ _ error undecodable⟩

/-! ## One round of the loop -/

section Round

variable {locked : Str → Bool} {row : RunRow}

/-- The rows that one round of the loop selects: the first claimable row that nobody
holds, if there is one. -/
def nextCandidates (now : Timestamp) (locked : Str → Bool) (db : Database) : List RunRow :=
  db.table.select (fun row => claimable now row && !locked row.id) claimOrder 1

/-- A selected row is stored under its id. -/
theorem find?_of_nextCandidates (chosen : nextCandidates now locked db = [row]) :
    db.table.find? row.id = some row := by
  have member : row ∈ nextCandidates now locked db := chosen ▸ List.mem_singleton_self row
  exact Table.find?_of_mem (Table.mem_select member).1

theorem claimLoop_empty (remaining : Nat) (chosen : nextCandidates now locked db = []) :
    (claimLoop now workerId (remaining + 1)).execute locked db = .ok (none, db) := by
  rw [nextCandidates] at chosen
  simp only [claimLoop, Transaction.execute, chosen]

/-- A row that does not decode is quarantined, and the loop goes on. -/
theorem claimLoop_refuse (remaining : Nat) (chosen : nextCandidates now locked db = [row])
    {error : PyError} (undecodable : decodeCandidate now workerId row = .error error) :
    (claimLoop now workerId (remaining + 1)).execute locked db =
      (claimLoop now workerId remaining).execute locked
        (db.revise (quarantineRevision now workerId row)) := by
  have stored := find?_of_nextCandidates chosen
  have claimed : (db.table.put (claimedVersion now workerId row)).find? row.id =
      some (claimedVersion now workerId row) := Table.find?_put_self _ _
  have leased : leasedBy workerId (claimedVersion now workerId row) = true :=
    (leasedBy_iff _ _).mpr ⟨rfl, rfl⟩
  have overwritten : (db.table.put (claimedVersion now workerId row)).put
      (quarantinedVersion now (claimedVersion now workerId row)) =
        db.table.put (quarantinedVersion now (claimedVersion now workerId row)) :=
    Table.put_put _ rfl
  have written : (db.table.put (quarantinedVersion now (claimedVersion now workerId row))).find?
      row.id = some (quarantinedVersion now (claimedVersion now workerId row)) :=
    Table.find?_put_self _ _
  rw [nextCandidates] at chosen
  rw [decodeCandidate] at undecodable
  simp only [claimLoop, Transaction.execute, chosen, stored, Option.filter_some, ↓reduceIte,
    undecodable, quarantineClaim, appendEvent, claimedVersion_id, claimed, leased, overwritten,
    written, Option.isSome_some]
  rfl

/-- A row that decodes is started and handed out. -/
theorem claimLoop_take (remaining : Nat) (chosen : nextCandidates now locked db = [row])
    {run : ClaimedRun} (decoded : decodeCandidate now workerId row = .ok run) :
    (claimLoop now workerId (remaining + 1)).execute locked db =
      .ok (some run, db.revise (startRevision now workerId row run)) := by
  have stored := find?_of_nextCandidates chosen
  have claimed : (db.table.put (claimedVersion now workerId row)).find? row.id =
      some (claimedVersion now workerId row) := Table.find?_put_self _ _
  have same : run.id = row.id := (claimedFrom_of_decoded decoded).id
  rw [nextCandidates] at chosen
  rw [decodeCandidate] at decoded
  simp only [claimLoop, Transaction.execute, chosen, stored, Option.filter_some, ↓reduceIte,
    decoded, appendEvent, same, claimed, Option.isSome_some]
  rfl

/-- With no row held, a round selects the front of the queue. -/
theorem nextCandidates_unlocked {order : List RunRow} (queue : eligible now db = order) :
    nextCandidates now unlocked db = order.take 1 := by
  rw [nextCandidates, select_unlocked, ← queue, eligible]

end Round

/-! ## The whole loop -/

/-- The rows a claim refuses and the one it takes, from the front of the queue. -/
def dequeue (now : Timestamp) (workerId : Str) :
    Nat → List RunRow → List RunRow × Option (RunRow × ClaimedRun)
  | 0, _ | _, [] => ([], none)
  | remaining + 1, row :: rest =>
    match decodeCandidate now workerId row with
    | .ok run => ([], some (row, run))
    | .error _ =>
      let outcome := dequeue now workerId remaining rest
      (row :: outcome.1, outcome.2)

/-- What a dequeue writes. -/
def dequeueRevisions (now : Timestamp) (workerId : Str)
    (outcome : List RunRow × Option (RunRow × ClaimedRun)) : List (RunRow × EventBody) :=
  outcome.1.map (quarantineRevision now workerId) ++
    (outcome.2.map (fun taken => startRevision now workerId taken.1 taken.2)).toList

theorem dequeueRevisions_some (refused : List RunRow) (row : RunRow) (run : ClaimedRun) :
    dequeueRevisions now workerId (refused, some (row, run)) =
      refused.map (quarantineRevision now workerId) ++ [startRevision now workerId row run] := rfl

theorem dequeueRevisions_none (refused : List RunRow) :
    dequeueRevisions now workerId (refused, none) =
      refused.map (quarantineRevision now workerId) :=
  List.append_nil _

/-- The loop computes the dequeue. Induction on the rounds left; a quarantined row
leaves the queue and the rest of it stands as it did. -/
theorem execute_claimLoop {remaining : Nat} {order : List RunRow}
    (resolved : db.table.Resolved (claimable now) claimOrder) (queue : eligible now db = order) :
    (claimLoop now workerId remaining).execute unlocked db =
      .ok ((dequeue now workerId remaining order).2.map Prod.snd,
        db.reviseAll (dequeueRevisions now workerId (dequeue now workerId remaining order))) := by
  induction remaining generalizing db order with
  | zero => rfl
  | succ remaining ih =>
    cases order with
    | nil => exact claimLoop_empty remaining (nextCandidates_unlocked queue)
    | cons row rest =>
      have chosen : nextCandidates now unlocked db = [row] := nextCandidates_unlocked queue
      cases decoded : decodeCandidate now workerId row with
      | ok run =>
        rw [claimLoop_take remaining chosen decoded, dequeue, decoded]
        rfl
      | error error =>
        have failed : claimable now (quarantineRevision now workerId row).1 = false := rfl
        have continued : eligible now (db.revise (quarantineRevision now workerId row)) = rest :=
          Table.ordered_put_head claimOrder_ranks resolved queue rfl failed
        rw [claimLoop_refuse remaining chosen decoded, ih (resolved.put failed) continued, dequeue,
          decoded]
        rfl

/-- A dequeue splits the queue: either it takes a row within the bound after
refusing all rows before it, or it refuses everything within the bound. -/
theorem dequeue_cases (now : Timestamp) (workerId : Str) (remaining : Nat)
    (order : List RunRow) :
    (∃ refused row rest run, order = refused ++ row :: rest ∧ refused.length < remaining ∧
      (∀ other ∈ refused, Refused now workerId other) ∧
      decodeCandidate now workerId row = .ok run ∧
      dequeue now workerId remaining order = (refused, some (row, run))) ∨
    ((∀ row ∈ order.take remaining, Refused now workerId row) ∧
      dequeue now workerId remaining order = (order.take remaining, none)) := by
  induction remaining generalizing order with
  | zero => exact Or.inr ⟨by simp, rfl⟩
  | succ remaining ih =>
    cases order with
    | nil => exact Or.inr ⟨by simp, rfl⟩
    | cons row rest =>
      cases decoded : decodeCandidate now workerId row with
      | ok run =>
        refine Or.inl ⟨[], row, rest, run, rfl, Nat.succ_pos remaining, ?_, decoded, ?_⟩
        · intro _ absurd
          cases absurd
        · rw [dequeue, decoded]
      | error error =>
        have refusedRow := refused_of_error decoded
        rcases ih rest with ⟨refused, taken, later, run, split, bounded, others, accepted, outcome⟩
          | ⟨others, outcome⟩
        · refine Or.inl ⟨row :: refused, taken, later, run, ?_, ?_, ?_, accepted, ?_⟩
          · rw [split, List.cons_append]
          · exact Nat.succ_lt_succ bounded
          · intro other member
            rcases List.mem_cons.mp member with rfl | inRest
            · exact refusedRow
            · exact others other inRest
          · rw [dequeue, decoded, outcome]
        · refine Or.inr ⟨?_, ?_⟩
          · intro other member
            rcases List.mem_cons.mp member with rfl | inRest
            · exact refusedRow
            · exact others other inRest
          · rw [dequeue, decoded, outcome]
            rfl

/-! ## The claim -/

/-- What a claim with this answer did to the queue in its first `bound` rows. -/
def Dequeued (now : Timestamp) (workerId : Str) (bound : Nat) (db : Database)
    (answer : Option ClaimedRun) (db' : Database) : Prop :=
  (∃ refused row rest run, eligible now db = refused ++ row :: rest ∧ refused.length < bound ∧
    (∀ other ∈ refused, Refused now workerId other) ∧
    decodeCandidate now workerId row = .ok run ∧ answer = some run ∧
    db.Revises db'
      (refused.map (quarantineRevision now workerId) ++ [startRevision now workerId row run])) ∨
  ((∀ row ∈ (eligible now db).take bound, Refused now workerId row) ∧ answer = none ∧
    db.Revises db' (((eligible now db).take bound).map (quarantineRevision now workerId)))

/-- With no concurrent transaction and no ties, a claim never raises: it takes the
first row of the queue that decodes, if that is among the first `max_quarantined`,
quarantines exactly the rows before it, and leaves everything else alone. -/
theorem claim_dequeues {maxQuarantined : Int} (now : Timestamp) (workerId : Str)
    (distinct : (db.table.rows.map (fun row => (row.availableAt, row.createdAt))).Nodup)
    (positive : 1 ≤ maxQuarantined) :
    ∃ answer db', perform now unlocked (.claim workerId maxQuarantined) db =
        .ok (.claimed answer, db') ∧
      Dequeued now workerId maxQuarantined.toNat db answer db' := by
  have resolved : db.table.Resolved (claimable now) claimOrder := claimOrder_resolved distinct
  have keys : ((eligible now db).map RunRow.id).Nodup := Table.ordered_distinct _
  have performed : perform now unlocked (.claim workerId maxQuarantined) db =
      ((claimLoop now workerId maxQuarantined.toNat).execute unlocked db).map
        (fun outcome => (.claimed outcome.1, outcome.2)) := by
    simp only [perform, Operation.transaction, Transaction.execute_map, claim,
      Int.not_lt.mpr positive, ↓reduceIte]
  rw [performed, execute_claimLoop resolved rfl]
  refine ⟨_, _, rfl, ?_⟩
  rcases dequeue_cases now workerId maxQuarantined.toNat (eligible now db) with
    ⟨refused, row, rest, run, split, bounded, others, decoded, outcome⟩ | ⟨others, outcome⟩
  · rw [outcome, dequeueRevisions_some]
    refine Or.inl ⟨refused, row, rest, run, split, bounded, others, decoded, rfl, ?_⟩
    apply Store.revises_reviseAll
    rw [split, List.map_append, List.map_cons] at keys
    have front : (refused.map RunRow.id ++ [row.id]).Nodup :=
      keys.sublist (List.Sublist.append_left (List.singleton_sublist.mpr List.mem_cons_self) _)
    rw [List.map_append, List.map_map]
    exact front
  · rw [outcome, dequeueRevisions_none]
    refine Or.inr ⟨others, rfl, ?_⟩
    apply Store.revises_reviseAll
    rw [List.map_map]
    exact keys.sublist ((List.take_sublist _ _).map _)

/-- A run without limits, queued before one that decodes. -/
def poisonedQueue : Database :=
  (Database.empty.putRun (queuedRow 1 smallId.text (smallRequest 3))).putRun
    (queuedRow 0 (lit "00000000-0000-4000-8000-000000000002") { smallRequest 3 with limits := [] })

/-- A claim on the poisoned queue. -/
theorem claim_dequeues_poisoned :
    ∃ answer db', perform (seconds 1) unlocked (.claim (lit "w") 10) poisonedQueue =
        .ok (.claimed answer, db') ∧
      Dequeued (seconds 1) (lit "w") (10 : Int).toNat poisonedQueue answer db' :=
  claim_dequeues (seconds 1) (lit "w") (by decide) (by decide)

example : dequeue (seconds 1) (lit "w") 10 (eligible (seconds 1) poisonedQueue) =
    ([queuedRow 0 (lit "00000000-0000-4000-8000-000000000002")
        { smallRequest 3 with limits := [] }],
      some (queuedRow 1 smallId.text (smallRequest 3), smallClaim (lit "w") 1 3)) := by rfl

end RlmApi
