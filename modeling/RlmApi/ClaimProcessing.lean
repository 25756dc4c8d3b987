import RlmApi.HeartbeatLoop
import RlmApi.LeaseFencing

/-!
# Processing one claim

`process_claim` runs two tasks: the main path, which executes the run, stores its
outcome and then stops the heartbeat task, and the heartbeat loop beside it. Their
steps and the operations of other workers interleave in any order, and any time
passes between them. A query is on its way between the call that sends it and the
resumption with its answer, and the database executes it at some moment in
between; a cancelled task takes no further step, but a query it has sent may still
be executed.

Beside the two tasks the state records who ended the claim's lease, and for a
reported loss of the lease what was the case when the report was committed.
-/

namespace RlmApi

open RunStore

/-- Who a call speaks for. -/
def Operation.worker : Operation → Option Str
  | .claim workerId _ => some workerId
  | .heartbeat run | .succeed run _ | .fail run _ | .report run _ => some run.workerId
  | .enqueue _ _ | .recoverStale _ _ => none

/-- What the main path stores: the outcome of the execution, or its failure. -/
inductive Completion where
  | succeed (arguments : SucceedArguments)
  | fail (arguments : FailArguments)

def Completion.operation (run : ClaimedRun) : Completion → Operation
  | .succeed arguments => .succeed run arguments
  | .fail arguments => .fail run arguments

/-- The main path of `process_claim`. It is finished once it has cancelled the
heartbeat task. -/
inductive MainPhase where
  | executing
  | storing (completion : Completion)
  | stored (completion : Completion)
  | finished

/-- The heartbeat task. `late` marks the outcome of a query that the database
executed after it had committed the claim's own completion. -/
inductive BeatPhase where
  | sleeping (wakeAt : ℚ)
  | asking
  | heard (heartbeat : Heartbeat) (late : Bool)
  | reporting
  | reported

/-- Who ended a lease: its own worker, recovery, or anybody else. -/
inductive Ending where
  | own
  | recovery
  | other
deriving DecidableEq

/-- A committed report: whether the lease had ended, and the time since the last
confirmed heartbeat. -/
structure Alarm where
  ended : Option Ending
  silence : ℚ
deriving DecidableEq

structure Processing where
  db : Database
  now : ℚ
  main : MainPhase
  beat : BeatPhase
  lastConfirmed : ℚ
  ended : Option Ending
  alarm : Option Alarm

/-- The database has the run in the claim's lease. -/
def Database.leased (db : Database) (run : ClaimedRun) : Bool :=
  (db.run? run.id).any (leasedBy run.workerId)

/-- Who ends the claim's lease, if a call ends it. -/
def endingOf (run : ClaimedRun) (operation : Operation) : Ending :=
  if operation.worker = some run.workerId then .own
  else match operation with
    | .recoverStale _ _ => .recovery
    | _ => .other

/-- The payload of the report. -/
def leaseLostPayload (run : ClaimedRun) : List (Str × Json) :=
  jsonFields [("attempt", .int run.attempts), ("worker_id", .str run.workerId)]

/-- What happens next. The queries carry the time of their transaction and the rows
that others hold then. -/
inductive ProcessingAct where
  /-- Time passes. -/
  | pass (duration : ℚ)
  /-- Another worker's call commits. -/
  | other (now : Timestamp) (locked : Str → Bool) (operation : Operation)
  /-- The execution ends, or storing a success raises, and the main path sends this. -/
  | send (completion : Completion)
  /-- The database executes what the main path sent. -/
  | store (now : Timestamp) (locked : Str → Bool)
  /-- The main path resumes with the answer and stops the heartbeat task. -/
  | resume
  /-- The main path is cancelled or raises, and stops the heartbeat task. -/
  | interrupt
  /-- The heartbeat task wakes and sends a heartbeat. -/
  | wake
  /-- The database executes the heartbeat; the answer may be lost on the way. -/
  | ask (now : Timestamp) (locked : Str → Bool) (delivered : Bool)
  /-- The heartbeat raises without having been executed. -/
  | askRaises
  /-- The heartbeat task resumes with the outcome, and may send a report. -/
  | hear
  /-- The database executes the report. -/
  | report (now : Timestamp) (locked : Str → Bool)
  /-- The report raises. -/
  | reportRaises

namespace Processing

/-- The state right after `process_claim` has started both tasks. -/
def started (staleSeconds : Int) (db : Database) : Processing where
  db := db
  now := 0
  main := .executing
  beat := .sleeping (heartbeatInterval staleSeconds)
  lastConfirmed := 0
  ended := none
  alarm := none

/-- A call commits. -/
def commits (run : ClaimedRun) (now : Timestamp) (locked : Str → Bool) (operation : Operation)
    (state : Processing) : Option (Answer × Processing) :=
  match perform now locked operation state.db with
  | .ok (answer, db) =>
    some (answer, { state with
      db := db
      ended := if state.db.leased run && !db.leased run then some (endingOf run operation)
        else state.ended })
  | .error _ => none

/-- The step function of `process_claim` for one claim. -/
def next (run : ClaimedRun) (staleSeconds : Int) (act : ProcessingAct) (state : Processing) :
    Option Processing :=
  match act with
  | .pass duration =>
    if 0 ≤ duration then some { state with now := state.now + duration } else none
  | .other now locked operation =>
    if operation.worker = some run.workerId then none
    else (state.commits run now locked operation).map Prod.snd
  | .send completion =>
    match state.main, completion with
    | .executing, _ | .storing (.succeed _), .fail _ | .stored (.succeed _), .fail _ =>
      some { state with main := .storing completion }
    | _, _ => none
  | .store now locked =>
    match state.main with
    | .storing completion =>
      (state.commits run now locked (completion.operation run)).map
        (fun committed => { committed.2 with main := .stored completion })
    | _ => none
  | .resume =>
    match state.main with
    | .stored _ => some { state with main := .finished }
    | _ => none
  | .interrupt => some { state with main := .finished }
  | .wake =>
    match state.main, state.beat with
    | .finished, _ => none
    | _, .sleeping wakeAt =>
      if wakeAt ≤ state.now then some { state with beat := .asking } else none
    | _, _ => none
  | .ask now locked delivered =>
    match state.beat with
    | .asking =>
      match state.commits run now locked (.heartbeat run) with
      | some (.beaten owned, committed) =>
        some { committed with
          beat := .heard (if delivered then .answered owned else .raised)
            (decide (state.ended = some .own)) }
      | _ => none
    | _ => none
  | .askRaises =>
    match state.beat with
    | .asking => some { state with beat := .heard .raised false }
    | _ => none
  | .hear =>
    match state.main, state.beat with
    | .finished, _ => none
    | _, .heard heartbeat _ =>
      match confirmedAfter staleSeconds state.now state.lastConfirmed heartbeat with
      | some confirmed =>
        some { state with
          lastConfirmed := confirmed
          beat := .sleeping (state.now + heartbeatInterval staleSeconds) }
      | none => some { state with beat := .reporting }
    | _, _ => none
  | .report now locked =>
    match state.beat with
    | .reporting =>
      (state.commits run now locked (.report run (leaseLostPayload run))).map
        (fun committed => { committed.2 with
          beat := .reported
          alarm := some ⟨state.ended, state.now - state.lastConfirmed⟩ })
    | _ => none
  | .reportRaises =>
    match state.beat with
    | .reporting => some { state with beat := .reported }
    | _ => none

end Processing

/-! ## Who gains and who ends a lease -/

theorem leased_iff {db : Database} {run : ClaimedRun} :
    db.leased run = true ↔
      ∃ dossier, db.dossier? run.id = some dossier ∧ leasedBy run.workerId dossier.row = true := by
  cases found : db.run? run.id with
  | none =>
    simp [Database.leased, found, Store.dossier?, show db.table.find? run.id = none from found]
  | some row =>
    simp [Database.leased, found, Store.dossier?, show db.table.find? run.id = some row from found]

/-- Only a start gives a worker the lease of a run. -/
theorem RunChange.lease_gained {now : Timestamp} {action : RunAction} {before : Option RunDossier}
    {after : RunDossier} {workerId : Str} (change : RunChange now action before after)
    (leased : leasedBy workerId after.row = true) :
    (∃ dossier, before = some dossier ∧ leasedBy workerId dossier.row = true) ∨
      ∃ run, action = .start run ∧ run.workerId = workerId := by
  obtain ⟨running, holder⟩ := (leasedBy_iff _ _).mp leased
  cases change with
  | enqueue | quarantine | succeed => exact RunStatus.noConfusion running
  | start wanted decoded =>
    exact Or.inr ⟨_, rfl, (claimedFrom_of_decoded decoded).workerId.trans (Option.some.inj holder)⟩
  | @beat dossier run own =>
    exact Or.inl ⟨dossier, rfl, (leasedBy_iff _ _).mpr ⟨((leasedBy_iff _ _).mp own).1, holder⟩⟩
  | fail status =>
    rcases failureStatus_cases status with ⟨rfl, -⟩ | rfl <;> exact RunStatus.noConfusion running
  | recover stale status =>
    rcases failureStatus_cases status with ⟨rfl, -⟩ | rfl <;> exact RunStatus.noConfusion running
  | report => exact Or.inl ⟨_, rfl, leased⟩

/-- Only a recovery and the owner's completion end a lease. -/
theorem RunChange.lease_ended {now : Timestamp} {action : RunAction} {before after : RunDossier}
    {workerId : Str} (change : RunChange now action (some before) after)
    (leased : leasedBy workerId before.row = true) (ended : leasedBy workerId after.row = false) :
    (∃ staleSeconds next, action = .recover staleSeconds next) ∨
      ∃ run, run.workerId = workerId ∧ ((∃ arguments, action = .succeed run arguments) ∨
        ∃ arguments next, action = .fail run arguments next) := by
  obtain ⟨running, holder⟩ := (leasedBy_iff _ _).mp leased
  cases change with
  | quarantine wanted =>
    exact RunStatus.noConfusion (running.symm.trans ((claimable_iff _ _).mp wanted).1)
  | start wanted =>
    exact RunStatus.noConfusion (running.symm.trans ((claimable_iff _ _).mp wanted).1)
  | beat own =>
    have kept : leasedBy workerId before.row = false := ended
    rw [leased] at kept
    cases kept
  | succeed own =>
    have same := ((leasedBy_iff _ _).mp own).2.symm.trans holder
    exact Or.inr ⟨_, Option.some.inj same, Or.inl ⟨_, rfl⟩⟩
  | fail status delayed own =>
    have same := ((leasedBy_iff _ _).mp own).2.symm.trans holder
    exact Or.inr ⟨_, Option.some.inj same, Or.inr ⟨_, _, rfl⟩⟩
  | recover => exact Or.inl ⟨_, _, rfl⟩
  | report => rw [Dossier.record_row, leased] at ended; cases ended

section Calls

variable {now : Timestamp} {locked : Str → Bool} {operation : Operation} {answer : Answer}
  {db db' : Database} {run : ClaimedRun}

/-- Only the worker's own claim gives it a lease. -/
theorem Performed.lease_gained (performed : Performed now operation answer db db')
    (before : db.leased run = false) (after : db'.leased run = true) :
    ∃ maxQuarantined, operation = .claim run.workerId maxQuarantined := by
  obtain ⟨action, acts, acted⟩ := performed.acted run.id
  obtain ⟨dossier, found, leased⟩ := leased_iff.mp after
  have unleased : ¬ ∃ earlier, db.dossier? run.id = some earlier ∧
      leasedBy run.workerId earlier.row = true := by
    rw [← leased_iff, before]
    simp
  cases action with
  | none =>
    rw [show db'.dossier? run.id = db.dossier? run.id from acted] at found
    exact absurd ⟨dossier, found, leased⟩ unleased
  | some action =>
    obtain ⟨changed, stored, change⟩ := acted
    obtain rfl : dossier = changed := Option.some.inj (found.symm.trans stored)
    rcases change.lease_gained leased with held | ⟨started, rfl, same⟩
    · exact absurd held unleased
    · exact same ▸ Operation.calledBy_of_acts acts

/-- Only a recovery and the worker's own calls end its lease. -/
theorem Performed.lease_ended (performed : Performed now operation answer db db')
    (before : db.leased run = true) (after : db'.leased run = false) :
    (∃ staleSeconds batchSize, operation = .recoverStale staleSeconds batchSize) ∨
      operation.worker = some run.workerId := by
  obtain ⟨action, acts, acted⟩ := performed.acted run.id
  obtain ⟨dossier, found, leased⟩ := leased_iff.mp before
  have unleased : ∀ later, db'.dossier? run.id = some later →
      leasedBy run.workerId later.row = false := by
    intro later stored
    rw [← Bool.not_eq_true]
    intro held
    rw [leased_iff.mpr ⟨later, stored, held⟩] at after
    cases after
  cases action with
  | none =>
    have kept := unleased dossier ((show db'.dossier? run.id = _ from acted).trans found)
    rw [leased] at kept
    cases kept
  | some action =>
    obtain ⟨changed, stored, change⟩ := acted
    rw [found] at change
    have called := Operation.calledBy_of_acts acts
    rcases change.lease_ended leased (unleased changed stored) with
      ⟨staleSeconds, next, rfl⟩ | ⟨own, same, ⟨arguments, rfl⟩ | ⟨arguments, next, rfl⟩⟩
    · obtain ⟨batchSize, rfl⟩ := called
      exact Or.inl ⟨staleSeconds, batchSize, rfl⟩
    · obtain rfl : operation = .succeed own arguments := called
      exact Or.inr (congrArg some same)
    · obtain rfl : operation = .fail own arguments := called
      exact Or.inr (congrArg some same)

/-- A heartbeat answers whether the claim's lease still is. -/
theorem heartbeat_answers {owned : Bool}
    (performed : perform now locked (.heartbeat run) db = .ok (.beaten owned, db')) :
    owned = db.leased run := by
  cases found : (db.table.find? run.id).filter (leasedBy run.workerId) with
  | none =>
    rw [heartbeat_unowned found] at performed
    cases performed
    have lost : db.leased run = false := by
      rw [Database.leased, Option.any_eq_false]
      intro row stored
      rw [Option.filter_eq_none_iff] at found
      exact Bool.eq_false_iff.mpr (found row stored)
    exact lost.symm
  | some row =>
    simp only [perform, Operation.transaction, heartbeat, Transaction.map, Transaction.execute,
      found] at performed
    cases performed
    obtain ⟨stored, passes⟩ := Option.filter_eq_some_iff.mp found
    rw [Database.leased, show db.run? run.id = some row from stored, Option.any_some, passes]
    rfl

end Calls

namespace Processing

variable {run : ClaimedRun} {staleSeconds : Int} {state state' : Processing}

/-- The record of the lease is right: the database has the run in it exactly as long
as nobody has ended it, and only recovery and the worker itself end it. -/
structure LeaseRecorded (run : ClaimedRun) (state : Processing) : Prop where
  linked : state.db.Linked
  lease : state.db.leased run = state.ended.isNone
  ender : state.ended ≠ some .other

/-- A commit keeps the record right. A lease that has ended stays ended by the same. -/
theorem LeaseRecorded.commits (recorded : state.LeaseRecorded run) {now : Timestamp}
    {locked : Str → Bool} {operation : Operation} {answer : Answer}
    (foreign : ∀ maxQuarantined, operation ≠ .claim run.workerId maxQuarantined)
    (committed : state.commits run now locked operation = some (answer, state')) :
    state'.LeaseRecorded run ∧ (∀ ending, state.ended = some ending → state'.ended = some ending) ∧
      state' = { state with db := state'.db, ended := state'.ended } := by
  unfold Processing.commits at committed
  split at committed
  · next found db performed =>
    cases committed
    have effect := perform_effect recorded.linked performed
    cases before : state.db.leased run with
    | false =>
      have after : db.leased run = false := by
        rw [← Bool.not_eq_true]
        intro leased
        obtain ⟨maxQuarantined, called⟩ := effect.lease_gained before leased
        exact foreign maxQuarantined called
      have lease := recorded.lease
      rw [before] at lease
      simp only [Bool.false_and, Bool.false_eq_true, ↓reduceIte]
      exact ⟨⟨effect.linked, by rw [after, lease], recorded.ender⟩, fun _ same => same, trivial⟩
    | true =>
      have active : state.ended = none := by
        simpa [before] using recorded.lease
      cases after : db.leased run with
      | true =>
        simp only [Bool.not_true, Bool.and_false, Bool.false_eq_true, ↓reduceIte]
        exact ⟨⟨effect.linked, by rw [after, active]; rfl, recorded.ender⟩, fun _ same => same,
          trivial⟩
      | false =>
        simp only [Bool.not_false, Bool.and_self, ↓reduceIte]
        refine ⟨⟨effect.linked, after, ?_⟩, fun ending same => ?_, trivial⟩
        · rcases effect.lease_ended before after with ⟨stale, batch, rfl⟩ | own
          · simp [endingOf, Operation.worker]
          · simp [endingOf, own]
        · rw [active] at same
          cases same
  · cases committed

/-- A report is justified: recovery ended the lease, or no heartbeat was confirmed
for nine tenths of the deadline. -/
def Justified (staleSeconds : Int) (ended : Option Ending) (silence : ℚ) : Prop :=
  ended = some .recovery ∨ staleSeconds * (9 / 10) ≤ silence

/-- The heartbeat task is right about the lease. -/
structure Sound (run : ClaimedRun) (staleSeconds : Int) (state : Processing) : Prop where
  recorded : state.LeaseRecorded run
  heard : ∀ late, state.beat = .heard (.answered false) late →
    state.ended = some (if late then .own else .recovery)
  reporting : state.beat = .reporting →
    Justified staleSeconds state.ended (state.now - state.lastConfirmed)
  alarm : ∀ alarm, state.alarm = some alarm → Justified staleSeconds alarm.ended alarm.silence

/-- The heartbeat task resumes with the answer of a query that the database executed
after it had committed the claim's own completion. -/
def overhears (act : ProcessingAct) (state : Processing) : Bool :=
  match act, state.beat with
  | .hear, .heard (.answered _) true => true
  | _, _ => false

/-- A step that keeps the heartbeat task from overhearing its own completion. -/
def PromptStep (run : ClaimedRun) (staleSeconds : Int) (state state' : Processing) : Prop :=
  ∃ act, overhears act state = false ∧ next run staleSeconds act state = some state'

/-- Take a step unless the heartbeat task would overhear its own completion. -/
def promptNext (run : ClaimedRun) (staleSeconds : Int) (act : ProcessingAct) (state : Processing) :
    Option Processing :=
  if overhears act state then none else next run staleSeconds act state

theorem promptStep_of_promptNext (act : ProcessingAct) (before after : Processing)
    (taken : promptNext run staleSeconds act before = some after) :
    PromptStep run staleSeconds before after := by
  simp only [promptNext, Option.ite_none_left_eq_some, Bool.not_eq_true] at taken
  exact ⟨act, taken⟩

/-- The loop gives a lease up only when it is refused or past the threshold. -/
theorem refused_or_silent_of_none {now lastConfirmed : ℚ} {heartbeat : Heartbeat}
    (none : confirmedAfter staleSeconds now lastConfirmed heartbeat = none) :
    heartbeat = .answered false ∨ staleSeconds * (9 / 10) ≤ now - lastConfirmed := by
  cases heartbeat with
  | answered owned =>
    cases owned with
    | true => cases none
    | false => exact Or.inl rfl
  | raised =>
    simp only [confirmedAfter, ite_eq_right_iff, reduceCtorEq, imp_false, not_lt] at none
    exact Or.inr none

theorem Sound.commits (sound : state.Sound run staleSeconds) {now : Timestamp}
    {locked : Str → Bool} {operation : Operation} {answer : Answer}
    (foreign : ∀ maxQuarantined, operation ≠ .claim run.workerId maxQuarantined)
    (committed : state.commits run now locked operation = some (answer, state')) :
    state'.Sound run staleSeconds := by
  obtain ⟨recorded, kept, same⟩ := sound.recorded.commits foreign committed
  rw [same]
  refine ⟨⟨recorded.linked, recorded.lease, recorded.ender⟩, fun late heard => ?_,
    fun reporting => ?_, sound.alarm⟩
  · exact kept _ (sound.heard late heard)
  · exact (sound.reporting reporting).imp_left (kept _)

/-- A report that was justified stays so as time passes. -/
theorem Sound.pass (sound : state.Sound run staleSeconds) {duration : ℚ} (forward : 0 ≤ duration) :
    Sound run staleSeconds { state with now := state.now + duration } := by
  refine ⟨⟨sound.recorded.linked, sound.recorded.lease, sound.recorded.ender⟩, sound.heard,
    fun reporting => ?_, sound.alarm⟩
  refine (sound.reporting reporting).imp_right (fun silent => ?_)
  show _ ≤ state.now + duration - state.lastConfirmed
  linarith

/-- What the main path does is nothing to the heartbeat task. -/
theorem Sound.main (sound : state.Sound run staleSeconds) (main : MainPhase) :
    Sound run staleSeconds { state with main := main } :=
  ⟨⟨sound.recorded.linked, sound.recorded.lease, sound.recorded.ender⟩, sound.heard,
    sound.reporting, sound.alarm⟩

/-- The heartbeat task enters a phase that says nothing about the lease. -/
theorem Sound.beat (sound : state.Sound run staleSeconds) {beat : BeatPhase}
    (lastConfirmed : ℚ) (deaf : ∀ late, beat ≠ .heard (.answered false) late)
    (silent : beat ≠ .reporting) :
    Sound run staleSeconds { state with beat := beat, lastConfirmed := lastConfirmed } :=
  ⟨⟨sound.recorded.linked, sound.recorded.lease, sound.recorded.ender⟩,
    fun late heard => absurd heard (deaf late), fun reporting => absurd reporting silent,
    sound.alarm⟩

/-- The outcome of a heartbeat that the database executed. -/
theorem Sound.ask (sound : state.Sound run staleSeconds) {now : Timestamp} {locked : Str → Bool}
    {owned delivered : Bool} {committed : Processing}
    (asked : state.commits run now locked (.heartbeat run) = some (.beaten owned, committed)) :
    Sound run staleSeconds { committed with
      beat := .heard (if delivered then .answered owned else .raised)
        (decide (state.ended = some .own)) } := by
  have foreign : ∀ maxQuarantined, Operation.heartbeat run ≠ .claim run.workerId maxQuarantined :=
    fun _ => Operation.noConfusion
  have sound' := sound.commits foreign asked
  obtain ⟨-, kept, -⟩ := sound.recorded.commits foreign asked
  refine ⟨⟨sound'.recorded.linked, sound'.recorded.lease, sound'.recorded.ender⟩, ?_, nofun,
    sound'.alarm⟩
  intro late heard
  simp only [BeatPhase.heard.injEq] at heard
  obtain ⟨outcome, rfl⟩ := heard
  cases delivered with
  | false => cases outcome
  | true =>
    obtain rfl : owned = false := Heartbeat.answered.inj outcome
    have lost : state.db.leased run = false := by
      unfold Processing.commits at asked
      split at asked
      · next performed =>
        simp only [Option.some.injEq, Prod.mk.injEq] at asked
        rw [asked.1] at performed
        exact (heartbeat_answers performed).symm
      · cases asked
    have record := sound.recorded.lease
    rw [lost] at record
    obtain ⟨ending, ended⟩ := Option.isSome_iff_exists.mp (by simpa using record.symm)
    refine kept _ ?_
    have ender := sound.recorded.ender
    rw [ended] at ender ⊢
    cases ending with
    | own | recovery => simp
    | other => exact absurd rfl ender

/-- The heartbeat task resumes with an outcome it may trust. -/
theorem Sound.hear (sound : state.Sound run staleSeconds) {heartbeat : Heartbeat} {late : Bool}
    (phase : state.beat = .heard heartbeat late)
    (prompt : ∀ owned, heartbeat = .answered owned → late = false)
    (none : confirmedAfter staleSeconds state.now state.lastConfirmed heartbeat = none) :
    Sound run staleSeconds { state with beat := .reporting } := by
  refine ⟨⟨sound.recorded.linked, sound.recorded.lease, sound.recorded.ender⟩, nofun, fun _ => ?_,
    sound.alarm⟩
  rcases refused_or_silent_of_none none with rfl | silent
  · obtain rfl := prompt false rfl
    exact Or.inl (sound.heard false phase)
  · exact Or.inr silent

/-- The database executed a report, which was justified when it was sent. -/
theorem Sound.report (sound : state.Sound run staleSeconds) {now : Timestamp}
    {locked : Str → Bool} {answer : Answer} {reported : Processing}
    (reporting : state.beat = .reporting)
    (committed : state.commits run now locked (.report run (leaseLostPayload run)) =
      some (answer, reported)) :
    Sound run staleSeconds { reported with
      beat := .reported
      alarm := some ⟨state.ended, state.now - state.lastConfirmed⟩ } := by
  have sound' := sound.commits (fun _ => Operation.noConfusion) committed
  refine ⟨⟨sound'.recorded.linked, sound'.recorded.lease, sound'.recorded.ender⟩, nofun, nofun, ?_⟩
  rintro alarm ⟨⟩
  exact sound.reporting reporting

/-- Every prompt step keeps the heartbeat task right about the lease: one case per
act, and only an executed heartbeat, its hearing and its report concern it. -/
theorem Sound.step (sound : state.Sound run staleSeconds)
    (taken : PromptStep run staleSeconds state state') : state'.Sound run staleSeconds := by
  obtain ⟨act, prompt, taken⟩ := taken
  cases act with
  | pass duration =>
    simp only [next, Option.ite_none_right_eq_some, Option.some.injEq] at taken
    obtain ⟨forward, rfl⟩ := taken
    exact sound.pass forward
  | other now locked operation =>
    simp only [next, Option.ite_none_left_eq_some] at taken
    obtain ⟨stranger, committed⟩ := taken
    obtain ⟨⟨answer, after⟩, performed, rfl⟩ := Option.map_eq_some_iff.mp committed
    refine sound.commits (fun maxQuarantined called => stranger ?_) performed
    rw [called]
    rfl
  | send completion =>
    simp only [next] at taken
    split at taken
    · cases taken
      exact sound.main _
    · cases taken
      exact sound.main _
    · cases taken
      exact sound.main _
    · cases taken
  | store now locked =>
    simp only [next] at taken
    split at taken
    · next completion sent =>
      obtain ⟨⟨answer, stored⟩, committed, rfl⟩ := Option.map_eq_some_iff.mp taken
      refine (sound.commits (fun _ => ?_) committed).main _
      cases completion <;> exact Operation.noConfusion
    · cases taken
  | resume =>
    simp only [next] at taken
    split at taken
    · cases taken
      exact sound.main _
    · cases taken
  | interrupt =>
    simp only [next, Option.some.injEq] at taken
    subst taken
    exact sound.main _
  | wake =>
    simp only [next] at taken
    split at taken
    · cases taken
    · simp only [Option.ite_none_right_eq_some, Option.some.injEq] at taken
      obtain ⟨-, rfl⟩ := taken
      exact sound.beat _ nofun nofun
    · cases taken
  | ask now locked delivered =>
    simp only [next] at taken
    split at taken
    · split at taken
      · next owned committed asked =>
        cases taken
        exact sound.ask asked
      · cases taken
    · cases taken
  | askRaises =>
    simp only [next] at taken
    split at taken
    · cases taken
      exact sound.beat _ nofun nofun
    · cases taken
  | hear =>
    simp only [next] at taken
    split at taken
    · cases taken
    · next heartbeat late phase _ =>
      split at taken
      · cases taken
        exact sound.beat _ nofun nofun
      · next none =>
        cases taken
        refine sound.hear phase (fun owned answered => ?_) none
        subst answered
        cases late with
        | false => rfl
        | true => simp [overhears, phase] at prompt
    · cases taken
  | report now locked =>
    simp only [next] at taken
    split at taken
    · next reporting =>
      obtain ⟨⟨answer, reported⟩, committed, rfl⟩ := Option.map_eq_some_iff.mp taken
      exact sound.report reporting committed
    · cases taken
  | reportRaises =>
    simp only [next] at taken
    split at taken
    · cases taken
      exact sound.beat _ nofun nofun
    · cases taken

/-- Processing begins right after the claim was handed out. -/
theorem Sound.started {db : Database} (linked : db.Linked) (leased : db.leased run = true) :
    (Processing.started staleSeconds db).Sound run staleSeconds :=
  ⟨⟨linked, leased, nofun⟩, nofun, nofun, nofun⟩

/-- A report of a lost lease is no false alarm, in every run in which the heartbeat
task never overhears its own completion. -/
theorem alarms_justified {db : Database} {alarm : Alarm} (linked : db.Linked)
    (leased : db.leased run = true)
    (reached : Runs (PromptStep run staleSeconds) (started staleSeconds db) state)
    (reported : state.alarm = some alarm) :
    alarm.ended = some .recovery ∨ staleSeconds * (9 / 10) ≤ alarm.silence :=
  (Runs.keeps reached (fun _ _ sound taken => sound.step taken)
    (Sound.started linked leased)).alarm alarm reported

/-! ## Two short runs -/

/-- The database right after the small run was claimed. -/
def claimedDb : Database :=
  match replay (QueueState.next QueueState.anyCall) (reclaimed.take 2) QueueState.initial with
  | some state => state.db
  | none => Database.empty

theorem claimedDb_linked : claimedDb.Linked := by
  unfold claimedDb
  split
  · next state replayed =>
    exact (QueueState.sound_of_reachable (QueueState.reachable_of_replay replayed)).linked
  · exact fun _ _ => rfl

/-- Recovery takes the run away, and the next heartbeat finds out. -/
def recoveredActs : List ProcessingAct :=
  [.other (seconds 60) (fun _ => false) (.recoverStale 30 100), .pass 30, .wake,
    .ask (seconds 61) (fun _ => false) true, .hear, .report (seconds 61) (fun _ => false)]

/-- The run succeeds while a heartbeat is on its way. -/
def succeededActs : List ProcessingAct :=
  [.pass 30, .wake, .send (.succeed smallSuccess), .store (seconds 30) (fun _ => false),
    .ask (seconds 30) (fun _ => false) true, .hear, .report (seconds 30) (fun _ => false), .resume]

/-- Recovery ended the lease, and the report is justified. -/
theorem alarms_justified_recovered : ∃ state,
    Runs (PromptStep (smallClaim (lit "w") 1 2) 90) (started 90 claimedDb) state ∧
      ∃ alarm, state.alarm = some alarm ∧
        (alarm.ended = some .recovery ∨ (90 : Int) * (9 / 10) ≤ alarm.silence) := by
  have ran : ((replay (promptNext (smallClaim (lit "w") 1 2) 90) recoveredActs
      (started 90 claimedDb)).bind alarm).isSome = true := by decide +kernel
  obtain ⟨alarm, found⟩ := Option.isSome_iff_exists.mp ran
  obtain ⟨state, replayed, reported⟩ := Option.bind_eq_some_iff.mp found
  have reached := runs_of_replay promptStep_of_promptNext replayed
  exact ⟨state, reached, alarm, reported,
    alarms_justified claimedDb_linked (by decide +kernel) reached reported⟩

/-- The run succeeds while a heartbeat is on its way, which is then refused. Its
worker reports a lost lease that nobody took, 30 seconds after the claim. -/
theorem false_alarm : ∃ state,
    Runs (fun before after => ∃ act, next (smallClaim (lit "w") 1 2) 90 act before = some after)
      (started 90 claimedDb) state ∧
      claimedDb.leased (smallClaim (lit "w") 1 2) = true ∧
      ∃ alarm, state.alarm = some alarm ∧ alarm.ended = some .own ∧
        ¬ (alarm.ended = some .recovery ∨ (90 : Int) * (9 / 10) ≤ alarm.silence) := by
  have ran : ((replay (next (smallClaim (lit "w") 1 2) 90) succeededActs
      (started 90 claimedDb)).bind alarm) = some ⟨some .own, 30⟩ := by decide +kernel
  obtain ⟨state, replayed, reported⟩ := Option.bind_eq_some_iff.mp ran
  refine ⟨state, runs_of_replay (fun act _ _ taken => ⟨act, taken⟩) replayed, by decide +kernel,
    _, reported, rfl, ?_⟩
  rintro (recovered | silent)
  · cases recovered
  · norm_num at silent

end Processing

end RlmApi
