import RlmApi.HeartbeatLoop
import RlmApi.LeaseRenewal
import RlmApi.RunProgress

/-!
# Executions and leases in time

A worker that is cut off from the database goes on executing until its heartbeat loop
gives up, while a recovery hands the run on once the lease is stale. Whether two workers
ever execute one run depends on which of the two comes first.

Time is rational and calls take none, as for the loop alone. The clock of the database
ticks with those of the workers, in whole microseconds.
-/

namespace RlmApi

open RunStore

/-- `now()` at a time in seconds. -/
def stamp (time : ℚ) : Timestamp := ⌊time * 1000000⌋

theorem stamp_mono {earlier later : ℚ} (le : earlier ≤ later) : stamp earlier ≤ stamp later :=
  Int.floor_mono (mul_le_mul_of_nonneg_right le (by norm_num))

/-- Whole seconds pass on both clocks alike. -/
theorem stamp_add_seconds (time : ℚ) (n : Int) : stamp (time + n) = stamp time + seconds n := by
  have shifted : (time + n) * 1000000 = time * 1000000 + ((n * 1000000 : Int) : ℚ) := by
    push_cast
    ring
  rw [stamp, shifted, Int.floor_add_intCast]
  rfl

/-- A claim that a worker executes, with the heartbeat loop beside the execution: the
time of its last turn and that of the last confirmation. -/
structure Execution where
  run : ClaimedRun
  turned : ℚ
  confirmed : ℚ

namespace Execution

/-- `process_claim` starts both tasks. -/
def start (now : ℚ) (run : ClaimedRun) : Execution := ⟨run, now, now⟩

/-- The next turn of the loop. -/
def due (staleSeconds : Int) (execution : Execution) : ℚ :=
  execution.turned + heartbeatInterval staleSeconds

/-- The turn of the loop. An execution that it cancels is over. -/
def turn (staleSeconds : Int) (heartbeat : Heartbeat) (execution : Execution) :
    Option Execution :=
  match HeartbeatLoop.turn (heartbeatInterval staleSeconds) staleSeconds heartbeat
    (.waiting execution.turned execution.confirmed) with
  | .waiting turned confirmed => some ⟨execution.run, turned, confirmed⟩
  | .cancelled _ => none

theorem turn_eq_some_iff {staleSeconds : Int} {heartbeat : Heartbeat}
    {execution after : Execution} :
    execution.turn staleSeconds heartbeat = some after ↔ ∃ confirmed,
      confirmedAfter staleSeconds (execution.due staleSeconds) execution.confirmed heartbeat =
        some confirmed ∧ after = ⟨execution.run, execution.due staleSeconds, confirmed⟩ := by
  simp only [turn, HeartbeatLoop.turn, due]
  cases answer : confirmedAfter staleSeconds
      (execution.turned + heartbeatInterval staleSeconds) execution.confirmed heartbeat with
  | none => simp
  | some time => simp [eq_comm]

end Execution

/-- The queue at a time, and what each worker executes. -/
structure TimedFleet where
  now : ℚ
  queue : QueueState
  executing : Str → Option Execution

namespace TimedFleet

/-- The empty tables, and idle workers. -/
def initial : TimedFleet := ⟨0, QueueState.initial, fun _ => none⟩

/-- What the worker executes from now on. -/
def occupy (state : TimedFleet) (workerId : Str) (execution : Option Execution) : TimedFleet :=
  { state with executing := Function.update state.executing workerId execution }

/-- A call executed now. -/
def executed (state : TimedFleet) (operation : Operation) (answer : Answer) (db : Database) :
    TimedFleet :=
  { state with queue := state.queue.after (stamp state.now) operation answer db }

/-- A worker settles a claim once it executes nothing, and nobody recovers runs sooner
than a loop expects it. -/
def Permits (staleSeconds : Int) (state : TimedFleet) : Operation → Prop
  | .succeed run _ | .fail run _ => state.executing run.workerId = none
  | .recoverStale patience _ => staleSeconds ≤ patience
  | .claim _ _ => False
  | .enqueue _ _ | .heartbeat _ | .report _ _ => True

/-- How an awaited heartbeat ends, and what it does. -/
inductive Beats (state : TimedFleet) (run : ClaimedRun) : Heartbeat → TimedFleet → Prop
  | answered {locked : Str → Bool} {owned : Bool} {db : Database}
      (performed : perform (stamp state.now) locked (.heartbeat run) state.queue.db =
        .ok (.beaten owned, db)) :
      Beats state run (.answered owned) (state.executed (.heartbeat run) (.beaten owned) db)
  /-- Its answer is lost. -/
  | lost {locked : Str → Bool} {owned : Bool} {db : Database}
      (performed : perform (stamp state.now) locked (.heartbeat run) state.queue.db =
        .ok (.beaten owned, db)) :
      Beats state run .raised (state.executed (.heartbeat run) (.beaten owned) db)
  | unsent : Beats state run .raised state

/-- One step of the fleet. A loop takes its turn when it is due, so time does not pass
beyond that. -/
inductive Step (staleSeconds : Int) : TimedFleet → TimedFleet → Prop
  | wait {state : TimedFleet} {later : ℚ} (forward : state.now ≤ later)
      (punctual : ∀ workerId execution, state.executing workerId = some execution →
        later ≤ execution.due staleSeconds) :
      Step staleSeconds state { state with now := later }
  | claim {state : TimedFleet} {workerId : Str} {maxQuarantined : Int} {locked : Str → Bool}
      {claim : Option ClaimedRun} {db : Database} (idle : state.executing workerId = none)
      (performed : perform (stamp state.now) locked (.claim workerId maxQuarantined)
        state.queue.db = .ok (.claimed claim, db)) :
      Step staleSeconds state
        ((state.executed (.claim workerId maxQuarantined) (.claimed claim) db).occupy workerId
          (claim.map (.start state.now)))
  | call {state : TimedFleet} {locked : Str → Bool} {operation : Operation} {answer : Answer}
      {db : Database} (permitted : state.Permits staleSeconds operation)
      (performed : perform (stamp state.now) locked operation state.queue.db = .ok (answer, db)) :
      Step staleSeconds state (state.executed operation answer db)
  | turn {state beaten : TimedFleet} {workerId : Str} {execution : Execution}
      {heartbeat : Heartbeat} (executes : state.executing workerId = some execution)
      (due : state.now = execution.due staleSeconds)
      (beats : state.Beats execution.run heartbeat beaten) :
      Step staleSeconds state (beaten.occupy workerId (execution.turn staleSeconds heartbeat))
  /-- The execution ends, or its worker does. -/
  | finish {state : TimedFleet} {workerId : Str} :
      Step staleSeconds state (state.occupy workerId none)

/-- The states that steps lead to from the empty tables. -/
def Reachable (staleSeconds : Int) (state : TimedFleet) : Prop :=
  Runs (Step staleSeconds) initial state

section Steps

variable {staleSeconds : Int} {state state' : TimedFleet} {workerId : Str}
  {execution : Execution} {operation : Operation} {answer : Answer} {db : Database}
  {locked : Str → Bool}

theorem occupy_self (occupant : Option Execution) :
    (state.occupy workerId occupant).executing workerId = occupant :=
  Function.update_self ..

theorem occupy_of_ne (occupant : Option Execution) {other : Str} (apart : other ≠ workerId) :
    (state.occupy workerId occupant).executing other = state.executing other :=
  Function.update_of_ne apart ..

/-! ## The invariant -/

/-- The run is in the lease that its claim granted, with a sign of life no earlier than
the last confirmation. -/
def Leased (state : TimedFleet) (run : ClaimedRun) (confirmed : ℚ) : Prop :=
  ∃ row beaten, state.queue.db.run? run.id = some row ∧ QueueState.Renewed run beaten row ∧
    stamp confirmed ≤ beaten

/-- The loop takes its turns one interval apart, and while nothing is confirmed all but
the first fall below the threshold. -/
structure Ticks (staleSeconds : Int) (now : ℚ) (execution : Execution) : Prop where
  turns : ∃ m : Nat, execution.turned =
      execution.confirmed + m * heartbeatInterval staleSeconds ∧
    (m = 0 ∨ m * heartbeatInterval staleSeconds < staleSeconds * (9 / 10))
  turned : execution.turned ≤ now
  punctual : now ≤ execution.due staleSeconds

/-- What holds of an execution. -/
structure Carries (staleSeconds : Int) (state : TimedFleet) (workerId : Str)
    (execution : Execution) : Prop where
  worker : execution.run.workerId = workerId
  leased : state.Leased execution.run execution.confirmed
  ticks : Ticks staleSeconds state.now execution

/-- Every execution holds its lease. -/
structure Sound (staleSeconds : Int) (state : TimedFleet) : Prop where
  queue : state.queue.Sound
  executions : ∀ workerId execution, state.executing workerId = some execution →
    state.Carries staleSeconds workerId execution

/-- A loop that has just been confirmed begins to tick. -/
theorem ticks_confirmed (run : ClaimedRun) (now : ℚ) :
    Ticks staleSeconds now ⟨run, now, now⟩ where
  turns := ⟨0, by simp, Or.inl rfl⟩
  turned := le_refl now
  punctual := le_add_of_nonneg_right (HeartbeatLoop.interval_pos staleSeconds).le

/-- A loop whose ticks do not jump over the time between threshold and deadline has not
yet reached the deadline. -/
theorem Ticks.inTime {now : ℚ} (ticks : Ticks staleSeconds now execution)
    (positive : 1 ≤ staleSeconds) (tick : HeartbeatLoop.TickBeforeDeadline staleSeconds) :
    now ≤ execution.confirmed + staleSeconds := by
  obtain ⟨last, past, inTime⟩ := (HeartbeatLoop.tickBeforeDeadline_iff positive).mpr tick
  obtain ⟨m, turned, below⟩ := ticks.turns
  have interval := HeartbeatLoop.interval_pos staleSeconds
  have early : m ≤ last := by
    rcases below with rfl | below
    · exact Nat.zero_le last
    · have between : (m : ℚ) < last + 1 := lt_of_mul_lt_mul_right (below.trans_le past) interval.le
      have exact : m < last + 1 := by exact_mod_cast between
      omega
  have steps : ((m : ℚ) + 1) * heartbeatInterval staleSeconds ≤
      (last + 1) * heartbeatInterval staleSeconds := by
    have counted : (m : ℚ) ≤ last := by exact_mod_cast early
    exact mul_le_mul_of_nonneg_right (by linarith) interval.le
  calc now ≤ execution.due staleSeconds := ticks.punctual
    _ = execution.confirmed + (m + 1) * heartbeatInterval staleSeconds := by
      rw [Execution.due, turned]
      ring
    _ ≤ execution.confirmed + staleSeconds := by linarith

/-- A turn that does not cancel the execution keeps the ticks, and only a heartbeat that
was answered counts as a confirmation. -/
theorem Ticks.turn {now : ℚ} {heartbeat : Heartbeat} {after : Execution}
    (ticks : Ticks staleSeconds now execution) (due : now = execution.due staleSeconds)
    (turned : execution.turn staleSeconds heartbeat = some after) :
    Ticks staleSeconds now after ∧ after.run = execution.run ∧
      (heartbeat = .answered true ∧ after.confirmed = now ∨
        heartbeat = .raised ∧ after.confirmed = execution.confirmed) := by
  obtain ⟨confirmed, kept, rfl⟩ := Execution.turn_eq_some_iff.mp turned
  rw [← due] at kept ⊢
  cases heartbeat with
  | answered owned =>
    cases owned with
    | true =>
      cases kept
      exact ⟨ticks_confirmed execution.run now, rfl, Or.inl ⟨rfl, rfl⟩⟩
    | false => cases kept
  | raised =>
    obtain ⟨below, same⟩ := Option.ite_none_right_eq_some.mp kept
    cases same
    obtain ⟨m, earlier, -⟩ := ticks.turns
    have next : now = execution.confirmed + (m + 1 : Nat) * heartbeatInterval staleSeconds := by
      rw [due, Execution.due, earlier]
      push_cast
      ring
    refine ⟨⟨⟨m + 1, next, Or.inr ?_⟩, le_refl now, ?_⟩, rfl, Or.inr ⟨rfl, rfl⟩⟩
    · linarith
    · exact le_add_of_nonneg_right (HeartbeatLoop.interval_pos staleSeconds).le

/-- The last confirmation is in the past. -/
theorem Ticks.confirmed {now : ℚ} (ticks : Ticks staleSeconds now execution) :
    execution.confirmed ≤ now := by
  obtain ⟨m, turned, -⟩ := ticks.turns
  have interval := HeartbeatLoop.interval_pos staleSeconds
  have waited : 0 ≤ m * heartbeatInterval staleSeconds := mul_nonneg m.cast_nonneg interval.le
  have early := ticks.turned
  linarith

/-! ## What a call keeps -/

/-- The call spares the lease, whenever after the last confirmation its last sign of life
was. -/
def Spares (state : TimedFleet) (execution : Execution) (operation : Operation) : Prop :=
  ∀ beaten, stamp execution.confirmed ≤ beaten →
    QueueState.spares execution.run beaten (stamp state.now) operation = true

/-- A permitted call spares every lease whose loop has not reached the deadline. -/
theorem spares_of_permits (permitted : state.Permits staleSeconds operation)
    (executes : state.executing workerId = some execution)
    (worker : execution.run.workerId = workerId)
    (inTime : state.now ≤ execution.confirmed + staleSeconds) :
    state.Spares execution operation := by
  intro beaten later
  cases operation with
  | succeed other | fail other =>
    have apart : other.workerId ≠ execution.run.workerId := by
      intro same
      have idle : state.executing other.workerId = none := permitted
      rw [same, worker, executes] at idle
      cases idle
    simp [QueueState.spares, QueueState.sameLease, apart]
  | recoverStale patience =>
    have patient : staleSeconds ≤ patience := permitted
    have early := stamp_mono inTime
    rw [stamp_add_seconds] at early
    have spared : stamp state.now ≤ beaten + seconds patience :=
      early.trans (add_le_add later (seconds_le patient))
    simpa [QueueState.spares] using spared
  | enqueue | claim | heartbeat | report => rfl

/-- A call that spares an execution's lease keeps what holds of it. -/
theorem Carries.executed (carries : state.Carries staleSeconds workerId execution)
    (sound : state.queue.Sound) (spared : state.Spares execution operation)
    (performed : perform (stamp state.now) locked operation state.queue.db = .ok (answer, db)) :
    (state.executed operation answer db).Carries staleSeconds workerId execution := by
  obtain ⟨row, beaten, found, renewed, later⟩ := carries.leased
  obtain ⟨⟨row', found', renewed'⟩, -⟩ := renewed.call sound found (spared beaten later) performed
  refine ⟨carries.worker, ⟨row', _, found', renewed', ?_⟩, carries.ticks⟩
  cases operation with
  | heartbeat other =>
    simp only [QueueState.beatenAfter]
    split
    · exact stamp_mono carries.ticks.confirmed
    · exact later
  | enqueue | claim | succeed | fail | recoverStale | report => exact later

/-- A heartbeat that is executed is a sign of life. -/
theorem Leased.beaten {run : ClaimedRun} {confirmed : ℚ} (leased : state.Leased run confirmed)
    (sound : state.queue.Sound)
    (performed : perform (stamp state.now) locked (.heartbeat run) state.queue.db =
      .ok (answer, db)) :
    (state.executed (.heartbeat run) answer db).Leased run state.now := by
  obtain ⟨row, beaten, found, renewed, -⟩ := leased
  obtain ⟨⟨row', found', renewed'⟩, -⟩ := renewed.call sound found rfl performed
  refine ⟨row', _, found', renewed', le_of_eq ?_⟩
  simp [QueueState.beatenAfter, QueueState.sameLease]

/-- A claim grants a lease to the worker that makes it. -/
theorem carries_claimed {maxQuarantined : Int} {run : ClaimedRun} (sound : state.queue.Sound)
    (performed : perform (stamp state.now) locked (.claim workerId maxQuarantined)
      state.queue.db = .ok (.claimed (some run), db)) :
    (state.executed (.claim workerId maxQuarantined) (.claimed (some run)) db).Carries
      staleSeconds workerId (.start state.now run) := by
  obtain ⟨row, found, renewed⟩ := QueueState.Renewed.claimed sound performed
  obtain ⟨action, acts, -⟩ := (perform_effect sound.linked performed).acted run.id
  exact ⟨acts.1, ⟨row, _, found, renewed, le_refl _⟩, ticks_confirmed run state.now⟩

/-! ## Steps and runs -/

/-- What holds after a step of one worker, of its own execution and of the others. -/
theorem sound_occupy {occupant : Option Execution} (queue : state.queue.Sound)
    (own : ∀ execution, occupant = some execution →
      state.Carries staleSeconds workerId execution)
    (others : ∀ other execution, state.executing other = some execution → other ≠ workerId →
      state.Carries staleSeconds other execution) :
    Sound staleSeconds (state.occupy workerId occupant) := by
  refine ⟨queue, fun other execution executes => ?_⟩
  by_cases same : other = workerId
  · subst same
    rw [occupy_self] at executes
    obtain ⟨worker, leased, ticks⟩ := own execution executes
    exact ⟨worker, leased, ticks⟩
  · rw [occupy_of_ne _ same] at executes
    obtain ⟨worker, leased, ticks⟩ := others other execution executes same
    exact ⟨worker, leased, ticks⟩

/-- A turn of one loop keeps every lease. -/
theorem Sound.turn (sound : Sound staleSeconds state) {heartbeat : Heartbeat}
    (executes : state.executing workerId = some execution)
    (due : state.now = execution.due staleSeconds)
    (beats : state.Beats execution.run heartbeat state') :
    Sound staleSeconds (state'.occupy workerId (execution.turn staleSeconds heartbeat)) := by
  have carries := sound.executions workerId execution executes
  have executed {locked : Str → Bool} {owned : Bool} {db : Database}
      (performed : perform (stamp state.now) locked (.heartbeat execution.run) state.queue.db =
        .ok (.beaten owned, db)) (other : Str) (execution' : Execution)
      (executes' : state.executing other = some execution') :
      (state.executed (.heartbeat execution.run) (.beaten owned) db).Carries staleSeconds other
        execution' :=
    (sound.executions other execution' executes').executed sound.queue (fun _ _ => rfl) performed
  cases beats with
  | answered performed =>
    refine sound_occupy (sound.queue.performed (perform_effect sound.queue.linked performed))
      (fun after turned => ?_)
      (fun other execution' executes' _ => executed performed other execution' executes')
    obtain ⟨ticks, same, ⟨-, confirmed⟩ | ⟨⟨⟩, -⟩⟩ := carries.ticks.turn due turned
    have leased := carries.leased.beaten sound.queue performed
    exact ⟨same ▸ carries.worker, by rw [same, confirmed]; exact leased, ticks⟩
  | lost performed =>
    refine sound_occupy (sound.queue.performed (perform_effect sound.queue.linked performed))
      (fun after turned => ?_)
      (fun other execution' executes' _ => executed performed other execution' executes')
    obtain ⟨ticks, same, ⟨⟨⟩, -⟩ | ⟨-, confirmed⟩⟩ := carries.ticks.turn due turned
    obtain ⟨worker, leased, -⟩ := executed performed _ _ executes
    exact ⟨same ▸ worker, by rw [same, confirmed]; exact leased, ticks⟩
  | unsent =>
    refine sound_occupy sound.queue (fun after turned => ?_)
      (fun other execution' executes' _ => sound.executions other execution' executes')
    obtain ⟨ticks, same, ⟨⟨⟩, -⟩ | ⟨-, confirmed⟩⟩ := carries.ticks.turn due turned
    exact ⟨same ▸ carries.worker, by rw [same, confirmed]; exact carries.leased, ticks⟩

/-- Where the ticks of the loops do not jump over the time between threshold and
deadline, a step keeps every lease. -/
theorem Sound.step (sound : Sound staleSeconds state) (positive : 1 ≤ staleSeconds)
    (tick : HeartbeatLoop.TickBeforeDeadline staleSeconds)
    (taken : Step staleSeconds state state') : Sound staleSeconds state' := by
  cases taken with
  | wait forward punctual =>
    refine ⟨sound.queue, fun workerId execution executes => ?_⟩
    obtain ⟨worker, leased, ticks⟩ := sound.executions workerId execution executes
    exact ⟨worker, leased, ticks.turns, ticks.turned.trans forward, punctual _ _ executes⟩
  | claim idle performed =>
    refine sound_occupy (sound.queue.performed (perform_effect sound.queue.linked performed))
      (fun execution started => ?_) (fun other execution executes _ => ?_)
    · obtain ⟨run, rfl, rfl⟩ := Option.map_eq_some_iff.mp started
      exact carries_claimed sound.queue performed
    · exact (sound.executions other execution executes).executed sound.queue (fun _ _ => rfl)
        performed
  | call permitted performed =>
    refine ⟨sound.queue.performed (perform_effect sound.queue.linked performed),
      fun workerId execution executes => ?_⟩
    have carries := sound.executions workerId execution executes
    have inTime := carries.ticks.inTime positive tick
    exact carries.executed sound.queue (spares_of_permits permitted executes carries.worker inTime)
      performed
  | turn executes due beats => exact sound.turn executes due beats
  | finish =>
    exact sound_occupy sound.queue (fun execution none => nomatch none)
      (fun other execution executes _ => sound.executions other execution executes)

theorem sound_initial : Sound staleSeconds initial :=
  ⟨QueueState.sound_initial, fun _ _ executes => nomatch executes⟩

/-- Every execution holds its lease, in every reachable state. -/
theorem sound_of_reachable (positive : 1 ≤ staleSeconds)
    (tick : HeartbeatLoop.TickBeforeDeadline staleSeconds)
    (reached : Reachable staleSeconds state) : Sound staleSeconds state :=
  reached.keeps (fun _ _ sound taken => sound.step positive tick taken) sound_initial

/-- A lease has one holder, so two executions that hold the lease of one run are one. -/
theorem Sound.exclusive (sound : Sound staleSeconds state) {other : Str} {execution' : Execution}
    (executes : state.executing workerId = some execution)
    (executes' : state.executing other = some execution')
    (same : execution.run.id = execution'.run.id) : workerId = other := by
  obtain ⟨worker, ⟨row, _, found, renewed, -⟩, -⟩ := sound.executions _ _ executes
  obtain ⟨worker', ⟨row', _, found', renewed', -⟩, -⟩ := sound.executions _ _ executes'
  rw [same, found'] at found
  obtain rfl : row' = row := Option.some.inj found
  have holder := ((leasedBy_iff _ _).mp renewed.leased).2
  rw [((leasedBy_iff _ _).mp renewed'.leased).2, worker, worker'] at holder
  exact (Option.some.inj holder).symm

end Steps

/-! ## A worker that is cut off -/

section CutOff

variable {staleSeconds : Int} {queue : QueueState}

/-- One request, claimed at once. -/
theorem one_claim : ∃ queued db : Database,
    perform 0 (fun _ => false) (.enqueue smallId (smallRequest 2)) Database.empty =
      .ok (.enqueued smallId.text, queued) ∧
    perform 0 (fun _ => false) (.claim (lit "w") 10) queued =
      .ok (.claimed (some (smallClaim (lit "w") 1 2)), db) ∧
    ∀ row ∈ db.table.rows, row.id = smallId.text ∧ 1 ≤ row.attempts ∧
      row.attempts ≤ row.maxAttempts :=
  ⟨_, _, rfl, rfl, by decide⟩

/-- The worker of that claim after the last turn of its loop, while no heartbeat gets
through. -/
def cutOff (queue : QueueState) (turned : ℚ) : TimedFleet :=
  ⟨turned, queue, Function.update (fun _ => none) (lit "w")
    (some ⟨smallClaim (lit "w") 1 2, turned, 0⟩)⟩

/-- What the queue is like then. -/
structure Claimed (queue : QueueState) : Prop where
  sound : queue.Sound
  renewed : ∃ row, queue.db.run? smallId.text = some row ∧
    QueueState.Renewed (smallClaim (lit "w") 1 2) 0 row
  rows : ∀ row ∈ queue.db.table.rows, row.id = smallId.text ∧ row.Claimed

theorem reachable_claimed (staleSeconds : Int) :
    ∃ queue, Claimed queue ∧ Reachable staleSeconds (cutOff queue 0) := by
  obtain ⟨queued, db, enqueued, claimed, rows⟩ := one_claim
  have zero : stamp 0 = 0 := by simp [stamp]
  have empty : QueueState.initial.db = Database.empty := rfl
  have sound := QueueState.sound_initial.performed
    (perform_effect QueueState.sound_initial.linked enqueued)
  refine ⟨_, ⟨sound.performed (perform_effect sound.linked claimed),
    QueueState.Renewed.claimed sound claimed, rows⟩, ?_⟩
  rw [← zero] at enqueued claimed
  let asked := initial.executed (.enqueue smallId (smallRequest 2)) (.enqueued smallId.text) queued
  have first : Step staleSeconds initial asked := .call trivial enqueued
  have second : Step staleSeconds asked _ := .claim rfl claimed
  have run : Reachable staleSeconds _ := (Relation.ReflTransGen.single first).tail second
  simp only [asked, executed, occupy, initial, Execution.start, Option.map_some, zero] at run
  exact run

theorem cutOff_executes (queue : QueueState) (turned : ℚ) :
    (cutOff queue turned).executing (lit "w") =
      some ⟨smallClaim (lit "w") 1 2, turned, 0⟩ := by
  simp [cutOff]

/-- Time passes until the next turn. -/
theorem cutOff_wait {turned later : ℚ} (forward : turned ≤ later)
    (due : later ≤ turned + heartbeatInterval staleSeconds) :
    Step staleSeconds (cutOff queue turned) { cutOff queue turned with now := later } := by
  refine .wait forward (fun workerId execution executes => ?_)
  simp only [cutOff, Function.update_apply] at executes
  split at executes
  · cases executes
    exact due
  · cases executes

/-- A heartbeat that does not get through, before the threshold. -/
theorem cutOff_turn {turned : ℚ}
    (below : turned + heartbeatInterval staleSeconds < staleSeconds * (9 / 10)) :
    Step staleSeconds
      { cutOff queue turned with now := turned + heartbeatInterval staleSeconds }
      (cutOff queue (turned + heartbeatInterval staleSeconds)) := by
  have goesOn : Execution.turn staleSeconds .raised ⟨smallClaim (lit "w") 1 2, turned, 0⟩ =
      some ⟨smallClaim (lit "w") 1 2, turned + heartbeatInterval staleSeconds, 0⟩ := by
    refine Execution.turn_eq_some_iff.mpr ⟨0, ?_, rfl⟩
    simpa [confirmedAfter, Execution.due] using below
  let due : TimedFleet :=
    { cutOff queue turned with now := turned + heartbeatInterval staleSeconds }
  have executes : due.executing (lit "w") = some ⟨smallClaim (lit "w") 1 2, turned, 0⟩ :=
    cutOff_executes queue turned
  have taken : Step staleSeconds due _ := .turn executes rfl .unsent
  rw [goesOn] at taken
  simpa [due, cutOff, occupy] using taken

/-- As long as its turns fall below the threshold, the worker that is cut off goes on. -/
theorem reachable_cutOff (reached : Reachable staleSeconds (cutOff queue 0)) (n : Nat)
    (below : n * heartbeatInterval staleSeconds < staleSeconds * (9 / 10)) :
    Reachable staleSeconds (cutOff queue (n * heartbeatInterval staleSeconds)) := by
  have interval := HeartbeatLoop.interval_pos staleSeconds
  induction n with
  | zero => simpa using reached
  | succ n inductionHypothesis =>
    have next : ((n + 1 : Nat) : ℚ) * heartbeatInterval staleSeconds =
        n * heartbeatInterval staleSeconds + heartbeatInterval staleSeconds := by
      push_cast
      ring
    rw [next] at below ⊢
    have earlier := inductionHypothesis (by linarith)
    exact (earlier.tail (cutOff_wait (by linarith) (le_refl _))).tail (cutOff_turn below)

/-- A recovery takes the run of the worker that is cut off once its lease is stale. -/
theorem cutOff_recovered {later : ℚ} (claimed : Claimed queue) (positive : 1 ≤ staleSeconds)
    (stale : seconds staleSeconds < stamp later) : ∃ answer db,
      perform (stamp later) (fun _ => false) (.recoverStale staleSeconds 1) queue.db =
        .ok (answer, db) ∧
      ¬ (queue.after (stamp later) (.recoverStale staleSeconds 1) answer db).InLease
        (smallClaim (lit "w") 1 2) := by
  obtain ⟨row, found, renewed⟩ := claimed.renewed
  have member := Table.find?_mem found
  have counters : RunningClaimed queue.db := fun other stored _ => (claimed.rows other stored).2
  obtain ⟨running, -⟩ := (leasedBy_iff _ _).mp renewed.leased
  have old : isStale (stamp later) staleSeconds row = true := by
    refine (isStale_iff _ _ _).mpr ⟨running, ?_⟩
    simpa [staleAt, renewed.beaten] using stale
  obtain ⟨retried, failed, db, first, version, performed, early, written, gone⟩ :=
    @recovery_releases_first _ (fun _ => false) _ _ _ _ counters positive (le_refl 1)
      ((claimed.rows row member).1.symm ▸ found) old rfl
  obtain ⟨other, stored, -⟩ := Table.mem_upTo.mp early
  have same : first.id = smallId.text := by
    rw [← Table.find?_key stored]
    exact (claimed.rows other (Table.find?_mem stored)).1
  refine ⟨_, db, performed, ?_⟩
  rintro ⟨row', found', runs, -⟩
  rw [same] at written
  obtain rfl : version = row' := Option.some.inj (written.symm.trans found')
  exact gone runs

/-- Where the ticks jump over the time between threshold and deadline, a worker that is
cut off executes its run without the lease. -/
theorem lease_lost (positive : 1 ≤ staleSeconds)
    (jumps : ¬ HeartbeatLoop.TickBeforeDeadline staleSeconds) :
    ∃ state, Reachable staleSeconds state ∧ ∃ workerId execution,
      state.executing workerId = some execution ∧ ¬ state.queue.InLease execution.run := by
  simp only [HeartbeatLoop.TickBeforeDeadline, not_or, not_le] at jumps
  obtain ⟨long, short⟩ := jumps
  have interval : heartbeatInterval staleSeconds = 30 := by
    rcases HeartbeatLoop.interval_eq staleSeconds with ⟨small, -⟩ | ⟨small, -⟩ | ⟨-, interval⟩
    · omega
    · omega
    · exact interval
  obtain ⟨queue, claimed, reached⟩ := reachable_claimed staleSeconds
  obtain ⟨n, ticks⟩ := Int.eq_ofNat_of_zero_le (by omega : 0 ≤ staleSeconds / 30)
  have below : (n : ℚ) * heartbeatInterval staleSeconds < staleSeconds * (9 / 10) := by
    have scaled : (10 * (30 * (n : Int)) : ℚ) < 9 * staleSeconds := by
      rw [ticks] at short
      exact_mod_cast short
    push_cast at scaled
    rw [interval]
    linarith
  let later : ℚ := staleSeconds + 1 / 1000000
  have after : (n : ℚ) * 30 ≤ later := by
    have floor : (30 * (n : Int) : ℚ) ≤ staleSeconds := by
      have exact : 30 * (n : Int) ≤ staleSeconds := by omega
      exact_mod_cast exact
    push_cast at floor
    simp only [later]
    linarith
  have before : later ≤ (n : ℚ) * 30 + 30 := by
    have next : (staleSeconds : ℚ) + 1 ≤ 30 * (n : Int) + 30 := by
      have exact : staleSeconds + 1 ≤ 30 * (n : Int) + 30 := by omega
      exact_mod_cast exact
    push_cast at next
    simp only [later]
    linarith
  have stale : seconds staleSeconds < stamp later := by
    have moment : stamp later = 1 + seconds staleSeconds := by
      simp only [later]
      rw [add_comm, stamp_add_seconds]
      norm_num [stamp]
    rw [moment]
    exact lt_one_add _
  obtain ⟨answer, db, performed, lost⟩ := cutOff_recovered claimed positive stale
  let waiting : TimedFleet :=
    { cutOff queue (n * heartbeatInterval staleSeconds) with now := later }
  have waited : Step staleSeconds (cutOff queue (n * heartbeatInterval staleSeconds)) waiting :=
    cutOff_wait (by rwa [interval]) (by rwa [interval])
  have permitted : waiting.Permits staleSeconds (.recoverStale staleSeconds 1) :=
    le_refl staleSeconds
  have run := ((reachable_cutOff reached n below).tail waited).tail (.call permitted performed)
  exact ⟨_, run, lit "w", _, cutOff_executes queue _, lost⟩

end CutOff

/-! ## Executions without a lease -/

/-- Whatever is executed is in the lease of the claim that is executed. -/
def HoldsLeases (state : TimedFleet) : Prop :=
  ∀ workerId execution, state.executing workerId = some execution →
    state.queue.InLease execution.run

/-- No two workers execute one run. -/
def Exclusive (state : TimedFleet) : Prop :=
  ∀ first second execution execution', state.executing first = some execution →
    state.executing second = some execution' → execution.run.id = execution'.run.id →
      first = second

/-- In every run of the fleet every execution holds its lease, whatever becomes of the
heartbeats and whenever others claim and recover, exactly if a tick of the loops lies
between the threshold and the deadline. Then no two workers ever execute one run. -/
theorem executions_exclusive {staleSeconds : Int} (positive : 1 ≤ staleSeconds) :
    ((∀ state, Reachable staleSeconds state → state.HoldsLeases) ↔
      HeartbeatLoop.TickBeforeDeadline staleSeconds) ∧
    (HeartbeatLoop.TickBeforeDeadline staleSeconds →
      ∀ state, Reachable staleSeconds state → state.Exclusive) := by
  refine ⟨⟨fun holds => ?_, fun tick state reached workerId execution executes => ?_⟩,
    fun tick state reached first second execution execution' executes executes' same =>
      (sound_of_reachable positive tick reached).exclusive executes executes' same⟩
  · by_contra jumps
    obtain ⟨state, reached, workerId, execution, executes, lost⟩ := lease_lost positive jumps
    exact lost (holds state reached workerId execution executes)
  · have sound := sound_of_reachable positive tick reached
    obtain ⟨row, _, found, renewed, -⟩ := (sound.executions workerId execution executes).leased
    exact renewed.inLease sound.queue found

/-- With the default of ten minutes a worker that executes a run holds its lease, with
101 seconds it may not. -/
theorem executions_exclusive_default :
    (∀ state, Reachable 600 state → state.HoldsLeases ∧ state.Exclusive) ∧
      (∃ state, Reachable 600 state ∧ (state.executing (lit "w")).isSome) ∧
      ¬ ∀ state, Reachable 101 state → state.HoldsLeases := by
  have default := executions_exclusive (by decide : (1 : Int) ≤ 600)
  have odd := executions_exclusive (by decide : (1 : Int) ≤ 101)
  refine ⟨fun state reached => ⟨default.1.mpr (by decide) state reached,
    default.2 (by decide) state reached⟩, ?_, fun holds => absurd (odd.1.mp holds) (by decide)⟩
  obtain ⟨queue, -, reached⟩ := reachable_claimed 600
  exact ⟨_, reached, by simp [cutOff]⟩

end TimedFleet

end RlmApi
