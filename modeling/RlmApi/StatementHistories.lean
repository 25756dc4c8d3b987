import RlmApi.EventJournal

/-!
# What the clients of the queue are answered

The interleaved queue again, with the answers that its clients receive. Transactions
overlap statement by statement, so two claims, or a success and a recovery, may be under
way for one row. Whoever puts the committed answers in the order of their commits finds
the history of an atomic queue: the attempts of a run are handed out in order and once
each, and a run is answered to have succeeded at most once.
-/

namespace RlmApi

/-- The call is the success of a run, and was answered so. -/
def succeedsRun (id : Str) (answered : (Timestamp × Operation) × Answer) : Bool :=
  match answered.1.2, answered.2 with
  | .succeed run _, .succeeded true => decide (run.id = id)
  | _, _ => false

/-- What was committed, as a record of the queue. -/
def recordOf (outcome : Database × List ((Timestamp × Operation) × Answer)) : QueueState where
  db := outcome.1
  handed := outcome.2.flatMap (fun answered => answered.2.handed)
  recovered := []
  queuedAt := fun _ => none

/-- The record of an interleaved queue. -/
def QueueWorld.record {τ : Type} (world : QueueWorld τ) : QueueState := recordOf world.outcome

/-- How often clients were told that they completed the run. -/
def QueueWorld.successes {τ : Type} (world : QueueWorld τ) (id : Str) : Nat :=
  world.answers.countP (succeedsRun id)

/-- One call that did what its answer stands for. -/
theorem performed_of_serial {before after : Database × List ((Timestamp × Operation) × Answer)}
    (commit : World.Serial queueProtocol before after) :
    ∃ now operation answer, Performed now operation answer before.1 after.1 ∧
      after.2 = before.2 ++ [((now, operation), answer)] := by
  obtain ⟨⟨now, operation⟩, answer, footprint, effect, leads, answered⟩ := commit
  exact ⟨now, operation, answer, Operation.Effect.performed effect leads, answered⟩

/-- The record is sound, and a success is answered exactly where a run has succeeded. -/
structure Answered (outcome : Database × List ((Timestamp × Operation) × Answer)) : Prop where
  sound : (recordOf outcome).Sound
  counted : ∀ id, outcome.2.countP (succeedsRun id) =
    if outcome.1.hasStatus id .succeeded then 1 else 0

/-- The answer of a call that succeeds the run. -/
theorem succeedsRun_iff {id : Str} {now : Timestamp} {operation : Operation} {answer : Answer} :
    succeedsRun id ((now, operation), answer) = true ↔
      ∃ run arguments, operation = .succeed run arguments ∧ answer = .succeeded true ∧
        run.id = id := by
  unfold succeedsRun
  split
  · next run arguments called answered =>
    simp only [decide_eq_true_eq]
    constructor
    · rintro rfl
      exact ⟨run, arguments, called, answered, rfl⟩
    · rintro ⟨other, _, same, -, rfl⟩
      rw [(Operation.succeed.inj (called.symm.trans same)).1]
  · next other =>
    constructor
    · intro absurd
      cases absurd
    · rintro ⟨run, arguments, rfl, rfl, -⟩
      exact (other run arguments rfl rfl).elim

/-- A call that is not the success of a run leaves it as succeeded as it was. -/
theorem Performed.hasStatus_succeeded {now : Timestamp} {operation : Operation} {answer : Answer}
    {db db' : Database} (performed : Performed now operation answer db db') {id : Str}
    (other : succeedsRun id ((now, operation), answer) ≠ true) :
    db'.hasStatus id .succeeded = db.hasStatus id .succeeded := by
  rw [Bool.eq_iff_iff, Database.hasStatus_iff, Database.hasStatus_iff]
  constructor
  · rintro ⟨row, found, finished⟩
    rcases performed.succeeded found finished with kept | ⟨run, arguments, called, answered, same⟩
    · exact ⟨row, kept, finished⟩
    · exact (other (succeedsRun_iff.mpr ⟨run, arguments, called, answered, same.symm⟩)).elim
  · rintro ⟨row, found, finished⟩
    rcases performed.kept_or_changed found with kept | ⟨_, before, after, -, change, rfl, stored⟩
    · exact ⟨row, kept, finished⟩
    · exact ⟨after.row, stored, (change.ended (Or.inl finished)).1 ▸ finished⟩

/-- What a call did counts one success more, if it is one. -/
theorem Answered.counted_after {before : Database × List ((Timestamp × Operation) × Answer)}
    (earlier : Answered before) {now : Timestamp} {operation : Operation} {answer : Answer}
    {db : Database} (performed : Performed now operation answer before.1 db) (id : Str) :
    (before.2 ++ [((now, operation), answer)]).countP (succeedsRun id) =
      if db.hasStatus id .succeeded then 1 else 0 := by
  rw [List.countP_append, earlier.counted id]
  by_cases succeeds : succeedsRun id ((now, operation), answer) = true
  · obtain ⟨run, arguments, rfl, rfl, rfl⟩ := succeedsRun_iff.mp succeeds
    obtain ⟨-, row, -, found, leased, written, -⟩ := performed.success
    have running : row.status = .running := ((leasedBy_iff _ _).mp leased).1
    have open_ : before.1.hasStatus run.id .succeeded = false := by
      simp [Database.hasStatus, found, running]
    have closed : db.hasStatus run.id .succeeded = true :=
      (Database.hasStatus_iff _ _ _).mpr ⟨_, written, rfl⟩
    simp [open_, closed, succeeds]
  · rw [performed.hasStatus_succeeded succeeds]
    simp [succeeds]

/-- One commit keeps all of it, and is progress on every run. -/
theorem Answered.commit {before after : Database × List ((Timestamp × Operation) × Answer)}
    (earlier : Answered before) (commit : World.Serial queueProtocol before after) :
    Answered after ∧ (recordOf before).Progressed (recordOf after) := by
  obtain ⟨db, answers⟩ := after
  obtain ⟨now, operation, answer, performed, answered⟩ := performed_of_serial commit
  obtain rfl : answers = before.2 ++ [((now, operation), answer)] := answered
  have performed : Performed now operation answer (recordOf before).db db := performed
  have sound := earlier.sound.performed performed
  have progressed := QueueState.progressed_performed performed
  have claims : ∀ id, (recordOf (db, before.2 ++ [((now, operation), answer)])).claimsOf id =
      ((recordOf before).after now operation answer db).claimsOf id := by
    intro id
    simp [QueueState.claimsOf, recordOf, QueueState.after]
  refine ⟨⟨⟨sound.linked, fun id => ?_, fun _ _ member => by cases member⟩,
    earlier.counted_after performed⟩, ⟨progressed.counters, fun id row found finished => ?_⟩⟩
  · rw [claims id]
    exact sound.runs id
  · obtain ⟨kept, same⟩ := progressed.final id row found finished
    exact ⟨kept, (claims id).trans same⟩

/-- In every interleaving of the statements, the claims that clients received number the
attempts of each run without a gap and within its limit, no counter falls, a run that has
ended is neither changed nor claimed again, and a run was answered to have succeeded once
if it has, and never otherwise. -/
theorem answers_accounted {τ : Type} [DecidableEq τ] {world later : QueueWorld τ}
    (reachable : world.Reachable queueProtocol Database.empty)
    (continued : Runs (World.Step queueProtocol) world later) :
    world.record.Accounted ∧ world.record.Progressed later.record ∧
      ∀ id, world.successes id = if world.db.hasStatus id .succeeded then 1 else 0 := by
  have linked : Database.empty.Linked := fun _ _ => rfl
  obtain ⟨middle, early⟩ := (World.Sound.initial linked).serial reachable
  obtain ⟨-, late⟩ := middle.serial continued
  have answered : Answered world.outcome :=
    Runs.keeps early (fun _ _ earlier commit => (Answered.commit earlier commit).1)
      ⟨QueueState.sound_initial, fun _ => rfl⟩
  have progressed : InvImage QueueState.Progressed recordOf world.outcome later.outcome :=
    Runs.relates late (fun _ _ earlier commit => (Answered.commit earlier commit).1) answered
      (fun outcome => QueueState.Progressed.refl (recordOf outcome)) QueueState.Progressed.trans
      (fun _ _ earlier commit => (Answered.commit earlier commit).2)
  exact ⟨answered.sound.accounted, progressed, answered.counted⟩

/-- The run that was claimed twice, one attempt after the other. -/
theorem answers_accounted_reclaimed :
    ∃ world : QueueWorld Nat, world.Reachable queueProtocol Database.empty ∧
      (∃ row, world.db.run? smallId.text = some row ∧ row.attempts = 2) ∧
      world.record.Accounted ∧ world.record.Progressed world.record ∧
      ∀ id, world.successes id = if world.db.hasStatus id .succeeded then 1 else 0 := by
  have starts : ∀ call ∈ reclaimed, ∀ answers, queueProtocol.starts answers call := by
    simp [reclaimed, queueProtocol]
  obtain ⟨state, replayed, row, found, attempts⟩ :
      ∃ state,
        replay (QueueState.next QueueState.anyCall) reclaimed QueueState.initial = some state ∧
        ∃ row, state.db.run? smallId.text = some row ∧ row.attempts = 2 :=
    ⟨_, rfl, _, rfl, rfl⟩
  obtain ⟨answered, run⟩ := reachable_of_serial 0 starts replayed
  exact ⟨_, run, ⟨row, found, attempts⟩, answers_accounted run .refl⟩

end RlmApi
