import RlmApi.DeliveryInvariant

/-!
# Exactly-once run summaries

What the invariant says about one run, over all runs of queue, outbox, memory store
and workers.
-/

namespace RlmApi.Delivery

open RunStore

variable {embedding : Str → Str × Int} {state : Delivery}

/-- The memories that stem from a run. -/
def memoriesOf (state : Delivery) (id : Str) : List MemoryItem :=
  state.memory.rows.filter (fun item => decide (item.sourceRunId = some id))

/-- The summary of a run is owed if and only if the run succeeded, is never
changed, is remembered at most once and as it is, is completed only when it is
remembered or can never be, and can be claimed until then. -/
structure ExactlyOnce (earlier state : Delivery) (id : Str) : Prop where
  owed : ∀ row, state.queue.db.run? id = some row →
    ((state.outbox.find? id).isSome = true ↔ row.status = .succeeded)
  fixed : ∀ summary, earlier.outbox.find? id = some summary →
    ∃ summary', state.outbox.find? id = some summary' ∧ SameSummary summary summary'
  once : (state.memoriesOf id).length ≤ 1
  faithful : ∀ item ∈ state.memoriesOf id, ∃ row summary,
    state.queue.db.run? id = some row ∧ state.outbox.find? id = some summary ∧
      item.tenantId = row.tenantId ∧ item.subjectId = row.subjectId ∧
      item.namespaceName = row.namespaceName ∧ item.content = summary.content
  settled : ∀ summary, state.outbox.find? id = some summary → summary.completedAt ≠ none →
    state.memoriesOf id ≠ [] ∨ summary.lastError = some invalidConfiguration ∧
      earlier.memoriesOf id = [] ∧ state.memoriesOf id = []
  selectable : ∀ summary, state.outbox.find? id = some summary → summary.completedAt = none →
    ∀ now staleSeconds, summary.availableAt ≤ now →
      (∀ claimedAt, summary.claimedAt = some claimedAt → claimedAt + seconds staleSeconds < now) →
      summaryClaimable now staleSeconds summary = true ∧
        ∀ workerId locked, locked id = false → ∃ candidate,
          summaryOrder candidate summary = true ∧
          claimSummaryRow now locked workerId staleSeconds state.outbox =
            some (claimedSummary now workerId candidate,
              state.outbox.put (claimedSummary now workerId candidate))

/-- A memory that stems from a run is the delivery of the run's summary. -/
theorem Sound.of_mem_memoriesOf (sound : state.Sound) {id : Str} {item : MemoryItem}
    (member : item ∈ state.memoriesOf id) :
    ∃ summary, state.outbox.find? id = some summary ∧ item.Of summary := by
  obtain ⟨stored, source⟩ := List.mem_filter.mp member
  exact sound.remembered item stored id (of_decide_eq_true source)

/-- It has the scope of the run and the text of the summary. -/
theorem Sound.faithful (sound : state.Sound) {id : Str} {item : MemoryItem}
    (member : item ∈ state.memoriesOf id) : ∃ row summary,
    state.queue.db.run? id = some row ∧ state.outbox.find? id = some summary ∧
      item.tenantId = row.tenantId ∧ item.subjectId = row.subjectId ∧
      item.namespaceName = row.namespaceName ∧ item.content = summary.content := by
  obtain ⟨summary, found, of⟩ := sound.of_mem_memoriesOf member
  obtain ⟨row, stored, belongs⟩ := sound.belongs id summary found
  exact ⟨row, summary, stored, found, of.tenantId.trans belongs.tenantId,
    of.subjectId.trans belongs.subjectId, of.namespaceName.trans belongs.namespaceName,
    of.content⟩

/-- A summary that cannot be delivered has no memory. -/
theorem Sound.memoriesOf_eq_nil (sound : state.Sound) {id : Str} {summary : OutboxRow}
    (found : state.outbox.find? id = some summary) (undeliverable : ¬ summary.Deliverable) :
    state.memoriesOf id = [] := by
  refine List.eq_nil_iff_forall_not_mem.mpr (fun item member => ?_)
  obtain ⟨other, found', of⟩ := sound.of_mem_memoriesOf member
  obtain rfl : other = summary := Option.some.inj (found'.symm.trans found)
  exact undeliverable of.deliverable

/-- A delivered summary has a memory. -/
theorem memoriesOf_ne_nil {id : Str} {summary : OutboxRow}
    (found : state.outbox.find? id = some summary) (delivered : Delivered state.memory summary) :
    state.memoriesOf id ≠ [] := by
  obtain ⟨item, stored⟩ := Option.isSome_iff_exists.mp delivered
  have source : item.sourceRunId = some id := by
    have slot := Table.find?_key stored
    unfold MemoryItem.slot at slot
    split at slot
    · next runId source =>
      rw [source, ← Table.find?_key found, (MemorySlot.summary.inj slot).2.2.2]
    · cases slot
  exact List.ne_nil_of_mem (List.mem_filter.mpr ⟨Table.find?_mem stored, decide_eq_true source⟩)

/-- All memories of a run are in one place. -/
theorem Sound.memoriesOf_length_le (sound : state.Sound) (id : Str) :
    (state.memoriesOf id).length ≤ 1 := by
  cases found : state.outbox.find? id with
  | none =>
    have empty : state.memoriesOf id = [] := by
      refine List.eq_nil_iff_forall_not_mem.mpr (fun item member => ?_)
      obtain ⟨summary, found', -⟩ := sound.of_mem_memoriesOf member
      cases found.symm.trans found'
    simp [empty]
  | some summary =>
    refine Table.filter_length_le_one summary.slot (fun item stored source => ?_)
    obtain ⟨other, found', of⟩ :=
      sound.of_mem_memoriesOf (List.mem_filter.mpr ⟨stored, source⟩)
    obtain rfl : other = summary := Option.some.inj (found'.symm.trans found)
    simp only [MemoryItem.slot, OutboxRow.slot, of.sourceRunId, of.tenantId, of.subjectId,
      of.namespaceName]

/-- Run summaries are delivered exactly once, whoever does what in whatever order. -/
theorem exactly_once_summaries {embedding : Str → Str × Int} {earlier state : Delivery}
    (reached : Reachable embedding earlier) (continued : Runs (Step embedding) earlier state)
    (id : Str) : ExactlyOnce earlier state id := by
  have before := sound_of_reachable reached
  have sound := sound_of_reachable (Relation.ReflTransGen.trans reached continued)
  have kept := kept_of_runs before continued
  refine ⟨fun row stored => ⟨fun some_ => ?_, sound.owed id row stored⟩, kept id,
    sound.memoriesOf_length_le id, fun item member => ?_, fun summary found completed => ?_,
    fun summary found pending now staleSeconds available stale => ?_⟩
  · obtain ⟨summary, found⟩ := Option.isSome_iff_exists.mp some_
    obtain ⟨other, stored', of⟩ := sound.belongs id summary found
    exact Option.some.inj (stored'.symm.trans stored) ▸ of.status
  · exact sound.faithful member
  · rcases (sound.settled id summary found).completed with pending | delivered | error
    · exact absurd pending completed
    · exact Or.inl (memoriesOf_ne_nil found delivered)
    · have undeliverable := (sound.settled id summary found).rejected error
      refine Or.inr ⟨error, ?_, sound.memoriesOf_eq_nil found undeliverable⟩
      refine List.eq_nil_iff_forall_not_mem.mpr (fun item member => ?_)
      obtain ⟨first, found', of⟩ := before.of_mem_memoriesOf member
      obtain ⟨last, found'', same⟩ := kept id first found'
      obtain rfl : last = summary := Option.some.inj (found''.symm.trans found)
      exact undeliverable (same.deliverable.mpr of.deliverable)
  · have claimable : summaryClaimable now staleSeconds summary = true :=
      (summaryClaimable_iff _ _ _).mpr ⟨pending, available, fun claimedAt held =>
        lt_sub_iff_add_lt.mpr (stale claimedAt held)⟩
    obtain rfl := Table.find?_key found
    exact ⟨claimable, fun workerId locked free =>
      claimSummaryRow_of_claimable workerId found claimable free⟩

/-- A worker stalls after its write, another takes the summary over, and the first
one's completion comes late. -/
def takenOver : List DeliveryAct :=
  [.call 0 (fun _ => false) (.enqueue smallId (smallRequest 2)),
    .call (seconds 1) (fun _ => false) (.claim (lit "v") 10),
    .call (seconds 2) (fun _ => false) (.succeed (smallClaim (lit "v") 1 2) smallSuccess),
    .claim (lit "v") (seconds 3) (fun _ => false) 60,
    .write (lit "v") (lit "first") true,
    .claim (lit "w") (seconds 100) (fun _ => false) 60,
    .complete (lit "v") (seconds 101) true,
    .write (lit "w") (lit "second") true,
    .complete (lit "w") (seconds 102) true]

/-- Two workers wrote the summary, and it is remembered once. -/
theorem exactly_once_summaries_taken_over : ∃ earlier state,
    Runs (Step (fun _ => (lit "embed", 8))) earlier state ∧
      (earlier.outbox.find? smallId.text).isSome = true ∧
      (state.memoriesOf smallId.text).map MemoryItem.id = [lit "first"] ∧
      ExactlyOnce earlier state smallId.text := by
  have ran : ((replay (next (fun _ => (lit "embed", 8))) (takenOver.take 4) initial).bind
      (fun earlier => (replay (next (fun _ => (lit "embed", 8))) (takenOver.drop 4) earlier).map
        (fun state => ((earlier.outbox.find? smallId.text).isSome,
          (state.memoriesOf smallId.text).map MemoryItem.id)))) =
      some (true, [lit "first"]) := by rfl
  obtain ⟨earlier, began, rest⟩ := Option.bind_eq_some_iff.mp ran
  obtain ⟨state, continued, shown⟩ := Option.map_eq_some_iff.mp rest
  obtain ⟨present, remembered⟩ := Prod.mk.inj shown
  have steps : ∀ act before after, next (fun _ => (lit "embed", 8)) act before = some after →
      Step (fun _ => (lit "embed", 8)) before after := fun act _ _ taken => ⟨act, taken⟩
  have run := runs_of_replay steps continued
  exact ⟨earlier, state, run, present, remembered,
    exactly_once_summaries (runs_of_replay steps began) run _⟩

end RlmApi.Delivery
