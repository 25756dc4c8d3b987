import RlmApi.QueueOperations
import RlmApi.TransitionSystems

/-!
# Histories of the run queue

The queue is a transition system whose steps are committed calls: any caller, any
clock, any set of rows locked by others at that moment. Beside the database the
state records what happened: the claims handed out, the leases that recovery
ended and the time each run was last queued. No call reads the record.

`allowed` restricts which calls are made in a state. The worker's discipline is
one such restriction; most results need none.
-/

namespace RlmApi

open RunStore

/-- The database with the record of how it came about. -/
structure QueueState where
  db : Database
  handed : List ClaimedRun
  recovered : List (Str × Int)
  queuedAt : Str → Option Timestamp

/-- The claims an answer hands out. -/
def Answer.handed : Answer → List ClaimedRun
  | .claimed (some run) => [run]
  | .claimed none | .enqueued _ | .beaten _ | .succeeded _ | .failed _ | .recovered _ _
  | .reported => []

/-- The database has a row with this status under the id. -/
def Database.hasStatus (db : Database) (id : Str) (status : RunStatus) : Bool :=
  (db.run? id).any (fun row => decide (row.status = status))

theorem Database.hasStatus_iff (db : Database) (id : Str) (status : RunStatus) :
    db.hasStatus id status = true ↔ ∃ row, db.run? id = some row ∧ row.status = status := by
  cases found : db.run? id <;> simp [Database.hasStatus, found]

/-- The leases that were running in the first database and not in the second. -/
def endedLeases (db db' : Database) : List (Str × Int) :=
  (db.table.rows.filter
    (fun row => decide (row.status = .running) && !db'.hasStatus row.id .running)).map
    (fun row => (row.id, row.attempts))

namespace QueueState

/-- The empty tables. -/
def initial : QueueState := ⟨Database.empty, [], [], fun _ => none⟩

/-- The claims of one run, in the order they were handed out. -/
def claimsOf (state : QueueState) (id : Str) : List ClaimedRun :=
  state.handed.filter (fun run => decide (run.id = id))

/-- The claim most recently handed to a worker. -/
def latest (state : QueueState) (workerId : Str) : Option ClaimedRun :=
  (state.handed.filter (fun run => decide (run.workerId = workerId))).getLast?

/-- The record of one committed call. -/
def after (state : QueueState) (now : Timestamp) (operation : Operation) (answer : Answer)
    (db : Database) : QueueState where
  db := db
  handed := state.handed ++ answer.handed
  recovered := match operation with
    | .recoverStale _ _ => state.recovered ++ endedLeases state.db db
    | _ => state.recovered
  queuedAt := fun id =>
    if db.hasStatus id .queued && !state.db.hasStatus id .queued then some now
    else state.queuedAt id

/-- One committed call that `allowed` permits. -/
inductive Step (allowed : QueueState → Operation → Prop) : QueueState → QueueState → Prop
  | call {state : QueueState} {now : Timestamp} {locked : Str → Bool} {operation : Operation}
      {answer : Answer} {db : Database} (permitted : allowed state operation)
      (performed : perform now locked operation state.db = .ok (answer, db)) :
      Step allowed state (state.after now operation answer db)

/-- The states that permitted calls lead to from the empty tables. -/
def Reachable (allowed : QueueState → Operation → Prop) (state : QueueState) : Prop :=
  Runs (Step allowed) initial state

/-- Every call may be made. -/
def anyCall (_ : QueueState) (_ : Operation) : Prop := True

/-- The discipline of `run_worker_loop`: a worker speaks only of the claim it
received last. -/
def Disciplined (state : QueueState) : Operation → Prop
  | .heartbeat run | .succeed run _ | .fail run _ => state.latest run.workerId = some run
  | .enqueue _ _ | .claim _ _ | .recoverStale _ _ | .report _ _ => True

instance (state : QueueState) (operation : Operation) : Decidable (anyCall state operation) :=
  .isTrue trivial

instance (state : QueueState) (operation : Operation) :
    Decidable (Disciplined state operation) :=
  match operation with
  | .heartbeat run => decEq (state.latest run.workerId) (some run)
  | .succeed run _ => decEq (state.latest run.workerId) (some run)
  | .fail run _ => decEq (state.latest run.workerId) (some run)
  | .enqueue _ _ | .claim _ _ | .recoverStale _ _ | .report _ _ => .isTrue trivial

/-- Make one call at a moment at which nobody else holds a row. -/
def next (allowed : QueueState → Operation → Prop)
    [∀ state operation, Decidable (allowed state operation)] (call : Timestamp × Operation)
    (state : QueueState) : Option QueueState :=
  if allowed state call.2 then
    match perform call.1 (fun _ => false) call.2 state.db with
    | .ok (answer, db) => some (state.after call.1 call.2 answer db)
    | .error _ => none
  else none

/-- A replayed list of calls reaches the state it computes. -/
theorem reachable_of_replay {allowed : QueueState → Operation → Prop}
    [∀ state operation, Decidable (allowed state operation)]
    {calls : List (Timestamp × Operation)} {state : QueueState}
    (replayed : replay (next allowed) calls initial = some state) : Reachable allowed state := by
  refine runs_of_replay (fun call before after taken => ?_) replayed
  unfold next at taken
  split at taken
  · next permitted =>
    split at taken
    · next answer db performed =>
      rw [← Option.some.inj taken]
      exact Step.call permitted performed
    · cases taken
  · cases taken

end QueueState

/-! ## A small queue -/

/-- The run of the concrete histories. -/
def smallId : Uuid := ⟨lit "00000000-0000-4000-8000-000000000001", by decide⟩

/-- A request that may be attempted so many times. -/
def smallRequest (maxAttempts : Int) : EnqueueArguments where
  tenantId := lit "acme"
  subjectId := lit "user"
  namespaceName := lit "default"
  task := lit "sum"
  context := lit "1 2"
  limits := [(lit "max_iters", 5), (lit "max_llm_calls", 10), (lit "max_output_chars", 1000),
    (lit "timeout_s", 60)]
  modelConfig := [(lit "root_model", .text (lit "root")), (lit "sub_model", .text (lit "sub")),
    (lit "embedding_model", .text (lit "embed")), (lit "embedding_dim", .number 8)]
  includeTrajectory := false
  maxAttempts := maxAttempts

/-- The claim a worker receives for that request on some attempt. -/
def smallClaim (workerId : Str) (attempts maxAttempts : Int) : ClaimedRun where
  id := smallId.text
  tenantId := lit "acme"
  subjectId := lit "user"
  namespaceName := lit "default"
  task := lit "sum"
  context := lit "1 2"
  limits := (smallRequest maxAttempts).limits
  modelConfig := (smallRequest maxAttempts).modelConfig
  includeTrajectory := false
  attempts := attempts
  maxAttempts := maxAttempts
  workerId := workerId

/-- What the main path stores for it. -/
def smallSuccess : SucceedArguments where
  result := [(lit "answer", .str (lit "3"))]
  usage := []
  recalledMemoryIds := []
  trajectory := .null
  summaryContent := lit "3"
  summaryMetadata := []
  storable := by decide

/-- Enqueued, claimed, lost to recovery, and claimed again by the same worker. -/
def reclaimed : List (Timestamp × Operation) :=
  [(0, .enqueue smallId (smallRequest 2)), (seconds 1, .claim (lit "w") 10),
    (seconds 60, .recoverStale 30 100), (seconds 120, .claim (lit "w") 10)]

/-- The claims one action hands out, none when the run is left alone. -/
def actionClaims : Option RunAction → List ClaimedRun
  | some action => action.claims
  | none => []

/-- A call hands out a claim of exactly the run that it starts. -/
theorem handed_of_acts {operation : Operation} {answer : Answer} {id : Str}
    {action : Option RunAction} (acts : operation.Acts answer id action) :
    answer.handed.filter (fun run => decide (run.id = id)) = actionClaims action := by
  cases operation with
  | claim workerId maxQuarantined =>
    cases answer with
    | claimed claim =>
      cases claim with
      | none =>
        simp only [Operation.Acts] at acts
        rcases acts with rfl | rfl <;> rfl
      | some run =>
        obtain ⟨-, acts⟩ := acts
        by_cases same : id = run.id
        · simp only [same, ↓reduceIte] at acts
          simp [acts, same, Answer.handed, actionClaims, RunAction.claims]
        · simp only [same, ↓reduceIte] at acts
          have other : ¬ run.id = id := fun equal => same equal.symm
          rcases acts with rfl | rfl <;>
            simp [other, Answer.handed, actionClaims, RunAction.claims]
    | enqueued | beaten | succeeded | failed | recovered | reported => exact False.elim acts
  | fail run arguments =>
    cases answer with
    | failed next =>
      cases next with
      | none =>
        simp only [Operation.Acts] at acts
        rw [acts]
        rfl
      | some next =>
        simp only [Operation.Acts] at acts
        rw [acts]
        split <;> rfl
    | enqueued | claimed | beaten | succeeded | recovered | reported => exact False.elim acts
  | recoverStale staleSeconds batchSize =>
    cases answer with
    | recovered retried failed =>
      simp only [Operation.Acts] at acts
      rcases acts with rfl | ⟨next, rfl⟩ <;> rfl
    | enqueued | claimed | beaten | succeeded | failed | reported => exact False.elim acts
  | enqueue | heartbeat | succeed | report =>
    cases answer <;> simp only [Operation.Acts] at acts
    rw [acts]
    split <;> rfl

/-- An action hands out one claim, by starting the run, or none. -/
theorem claims_cases (action : RunAction) :
    action.claims = [] ∨ ∃ run, action = .start run := by
  cases action with
  | start run => exact Or.inr ⟨run, rfl⟩
  | enqueue | quarantine | beat | succeed | fail | recover | report => exact Or.inl rfl

/-- A call that hands out a claim starts its run. -/
theorem Performed.starts {now : Timestamp} {operation : Operation} {answer : Answer}
    {db db' : Database} (performed : Performed now operation answer db db') {run : ClaimedRun}
    (handed : run ∈ answer.handed) : ∃ earlier later, db'.dossier? run.id = some later ∧
      RunChange now (.start run) (some earlier) later := by
  obtain ⟨action, acts, acted⟩ := performed.acted run.id
  have member : run ∈ actionClaims action := by
    rw [← handed_of_acts acts]
    exact List.mem_filter.mpr ⟨handed, by simp⟩
  cases action with
  | none => cases member
  | some action =>
    obtain ⟨dossier, written, change⟩ := acted
    rcases claims_cases action with none | ⟨started, rfl⟩
    · simp [actionClaims, none] at member
    · obtain rfl : run = started := List.mem_singleton.mp member
      cases before : db.dossier? run.id with
      | none =>
        rw [before] at change
        cases change
      | some earlier =>
        rw [before] at change
        exact ⟨earlier, dossier, written, change⟩

/-- A claim carries its run's scope. -/
structure ClaimedRun.ScopeOf (run : ClaimedRun) (row : RunRow) : Prop where
  tenantId : run.tenantId = row.tenantId
  subjectId : run.subjectId = row.subjectId
  namespaceName : run.namespaceName = row.namespaceName

/-- A claim that a call hands out carries its run's scope. -/
theorem Performed.scope {now : Timestamp} {operation : Operation} {answer : Answer}
    {db db' : Database} (performed : Performed now operation answer db db') {run : ClaimedRun}
    (handed : run ∈ answer.handed) : ∃ row, db'.run? run.id = some row ∧ run.ScopeOf row := by
  obtain ⟨earlier, later, written, change⟩ := performed.starts handed
  obtain ⟨claimed, -, version⟩ := change.started
  exact ⟨later.row, run?_eq_some_iff.mpr ⟨later, written, rfl⟩, version ▸
    ⟨claimed.tenantId, claimed.subjectId, claimed.namespaceName⟩⟩

/-! ## What the record of one run says -/

/-- The claims carry the attempts `1, 2, 3, …` in order. -/
def Numbered (claims : List ClaimedRun) : Prop :=
  claims.map ClaimedRun.attempts = (List.range' 1 claims.length).map Int.ofNat

/-- The next claim carries the next attempt. -/
theorem Numbered.append {claims : List ClaimedRun} {run : ClaimedRun} (numbered : Numbered claims)
    (next : run.attempts = claims.length + 1) : Numbered (claims ++ [run]) := by
  have counted : claims.map ClaimedRun.attempts = _ := numbered
  simp only [Numbered, List.map_append, List.map_cons, List.map_nil, List.length_append,
    List.length_cons, List.length_nil, counted, next, List.range'_concat]
  simp [Nat.add_comm]

/-- One attempt is handed out at most once. -/
theorem Numbered.nodup {claims : List ClaimedRun} (numbered : Numbered claims) :
    (claims.map ClaimedRun.attempts).Nodup := by
  rw [show claims.map ClaimedRun.attempts = _ from numbered]
  have distinct : (List.range' 1 claims.length).Nodup := List.nodup_range'
  exact distinct.map (fun _ _ => Int.ofNat.inj)

/-- The claims of a run fit its dossier; a run that does not exist has none. -/
def RunHistory (claims : List ClaimedRun) : Option RunDossier → Prop
  | none => claims = []
  | some dossier => Journal (claims.map ClaimedRun.workerId) dossier ∧ Numbered claims ∧
      ∀ run ∈ claims, run.maxAttempts = dossier.row.maxAttempts

/-- Every action on a run extends its history by the claim it hands out. -/
theorem RunHistory.acted {claims : List ClaimedRun} {now : Timestamp} {action : Option RunAction}
    {before after : Option RunDossier} (history : RunHistory claims before)
    (acted : Acted now action before after) :
    RunHistory (claims ++ actionClaims action) after := by
  cases action with
  | none =>
    rw [show after = before from acted]
    simpa [actionClaims] using history
  | some action =>
    obtain ⟨dossier, rfl, change⟩ := acted
    cases before with
    | none =>
      rw [show claims = [] from history]
      cases change with
      | enqueue storable positive =>
        exact ⟨Journal.of_enqueue (.enqueue storable positive), rfl, by simp [actionClaims,
          RunAction.claims]⟩
    | some earlier =>
      obtain ⟨journal, numbered, bounded⟩ := history
      have extended : Journal ((claims ++ action.claims).map ClaimedRun.workerId) dossier := by
        rw [List.map_append]
        exact journal.change change
      have kept := change.sameRequest.maxAttempts
      have carried : ∀ run ∈ claims, run.maxAttempts = dossier.row.maxAttempts :=
        fun run member => (bounded run member).trans kept.symm
      rcases claims_cases action with none | ⟨run, rfl⟩
      · simp only [actionClaims, none, List.append_nil] at extended ⊢
        exact ⟨extended, numbered, carried⟩
      · obtain ⟨claimed, queued, -⟩ := change.started
        have counted := (journal.word.attempts_bounds.2 (by simp [queued]))
        refine ⟨extended, numbered.append ?_, ?_⟩
        · rw [claimed.attempts]
          simpa [claimedVersion] using counted
        · intro other member
          rcases List.mem_append.mp member with old | new
          · exact carried other old
          · obtain rfl : other = run := List.mem_singleton.mp new
            rw [claimed.maxAttempts, kept]
            rfl

namespace QueueState

/-- The record agrees with the database: every run's claims fit its dossier, and
a lease that recovery ended is not the one its run is in. -/
structure Sound (state : QueueState) : Prop where
  linked : state.db.Linked
  runs : ∀ id, RunHistory (state.claimsOf id) (state.db.dossier? id)
  recovered : ∀ id attempts, (id, attempts) ∈ state.recovered →
    ∃ dossier, state.db.dossier? id = some dossier ∧ attempts ≤ dossier.row.attempts ∧
      (dossier.row.status = .running → attempts < dossier.row.attempts)

theorem sound_initial : Sound initial :=
  ⟨fun _ _ => rfl, fun _ => rfl, fun _ _ member => absurd member List.not_mem_nil⟩

/-- A run that exists is kept by an action, and its attempt counter is not
lowered. A lease that has ended stays ended. -/
theorem ended_acted {now : Timestamp} {action : Option RunAction} {before : RunDossier}
    {after : Option RunDossier} {attempts : Int} (acted : Acted now action (some before) after)
    (counted : attempts ≤ before.row.attempts)
    (ended : before.row.status = .running → attempts < before.row.attempts) :
    ∃ dossier, after = some dossier ∧ attempts ≤ dossier.row.attempts ∧
      (dossier.row.status = .running → attempts < dossier.row.attempts) := by
  cases action with
  | none => exact ⟨before, acted, counted, ended⟩
  | some action =>
    obtain ⟨dossier, rfl, change⟩ := acted
    refine ⟨dossier, rfl, le_trans counted change.attempts_le, fun runs => ?_⟩
    rcases change.running runs with ⟨ran, same, -⟩ | ⟨-, next⟩
    · have below := ended ran
      omega
    · omega

/-- The leases a recovery ended are over in the database it leaves. -/
theorem ended_of_endedLeases {now : Timestamp} {operation : Operation} {answer : Answer}
    {db db' : Database} (effect : Performed now operation answer db db') {id : Str} {attempts : Int}
    (member : (id, attempts) ∈ endedLeases db db') :
    ∃ dossier, db'.dossier? id = some dossier ∧ attempts ≤ dossier.row.attempts ∧
      (dossier.row.status = .running → attempts < dossier.row.attempts) := by
  obtain ⟨row, kept, equal⟩ := List.mem_map.mp member
  obtain ⟨rfl, rfl⟩ := Prod.mk.inj equal
  obtain ⟨stored, stopped⟩ := List.mem_filter.mp kept
  simp only [Bool.and_eq_true, decide_eq_true_eq, Bool.not_eq_true', ← Bool.not_eq_true,
    Database.hasStatus_iff] at stopped
  obtain ⟨before, found, rfl⟩ := run?_eq_some_iff.mp (Table.find?_of_mem stored)
  obtain ⟨action, -, acted⟩ := effect.acted before.row.id
  rw [found] at acted
  cases action with
  | none =>
    exact absurd ⟨_, run?_eq_some_iff.mpr ⟨before, acted, rfl⟩, stopped.1⟩ stopped.2
  | some action =>
    obtain ⟨dossier, after, change⟩ := acted
    refine ⟨dossier, after, change.attempts_le, fun runs => ?_⟩
    exact absurd ⟨_, run?_eq_some_iff.mpr ⟨dossier, after, rfl⟩, runs⟩ stopped.2

/-- What a call did keeps the record sound. -/
theorem Sound.performed {state : QueueState} {now : Timestamp} {operation : Operation}
    {answer : Answer} {db : Database} (sound : Sound state)
    (effect : Performed now operation answer state.db db) :
    Sound (state.after now operation answer db) := by
  refine ⟨effect.linked, fun id => ?_, fun id attempts member => ?_⟩
  · obtain ⟨action, acts, acted⟩ := effect.acted id
    have extended := (sound.runs id).acted acted
    rw [← handed_of_acts acts] at extended
    simpa [claimsOf, QueueState.after] using extended
  · have old : (id, attempts) ∈ state.recovered → ∃ dossier, db.dossier? id = some dossier ∧
        attempts ≤ dossier.row.attempts ∧
        (dossier.row.status = .running → attempts < dossier.row.attempts) := by
      intro earlier
      obtain ⟨before, found, counted, ended⟩ := sound.recovered id attempts earlier
      obtain ⟨action, -, acted⟩ := effect.acted id
      rw [found] at acted
      exact ended_acted acted counted ended
    cases operation with
    | recoverStale =>
      rcases List.mem_append.mp member with earlier | new
      · exact old earlier
      · exact ended_of_endedLeases effect new
    | enqueue | claim | heartbeat | succeed | fail | report => exact old member

/-- Every committed call keeps the record sound, whoever made it. -/
theorem sound_step {allowed : QueueState → Operation → Prop} {state state' : QueueState}
    (sound : Sound state) (step : Step allowed state state') : Sound state' := by
  cases step with
  | call permitted performed => exact sound.performed (perform_effect sound.linked performed)

theorem sound_of_reachable {allowed : QueueState → Operation → Prop} {state : QueueState}
    (reached : Reachable allowed state) : Sound state :=
  Runs.keeps reached (fun _ _ sound step => sound_step sound step) sound_initial

/-! ## Requests -/

/-- A run keeps the request it was enqueued with, through any calls whatever. -/
theorem sameRequest_runs {allowed : QueueState → Operation → Prop} {start later : QueueState}
    (linked : start.db.Linked) (run : Runs (Step allowed) start later) {id : Str} {row : RunRow}
    (found : start.db.run? id = some row) :
    ∃ row', later.db.run? id = some row' ∧ SameRequest row row' := by
  have one : ∀ before after : QueueState, before.db.Linked → Step allowed before after →
      after.db.Linked ∧ ∀ row, before.db.run? id = some row →
        ∃ row', after.db.run? id = some row' ∧ SameRequest row row' := by
    intro before after linked step
    cases step with
    | call permitted performed =>
      have effect := perform_effect linked performed
      exact ⟨effect.linked, fun row found => effect.sameRequest found⟩
  have kept : ∀ before after : QueueState, before.db.Linked → Step allowed before after →
      after.db.Linked := fun before after linked step => (one before after linked step).1
  refine Runs.relates run kept linked (fun state row found => ⟨row, found, SameRequest.refl row⟩)
    ?_ (fun before after linked step => (one before after linked step).2) row found
  intro first second third early late row found
  obtain ⟨middle, between, same⟩ := early row found
  obtain ⟨last, after, sameAgain⟩ := late middle between
  exact ⟨last, after, same.trans sameAgain⟩

/-! ## Attempt accounting and terminal states -/

/-- Every pair of a run and an attempt is handed out at most once, the attempts of
a run in order, and never more than the run allows. -/
structure Accounted (state : QueueState) : Prop where
  numbered : ∀ id, Numbered (state.claimsOf id)
  once : (state.handed.map (fun run => (run.id, run.attempts))).Nodup
  limited : ∀ id, state.claimsOf id ≠ [] → ∃ row, state.db.run? id = some row ∧
    ((state.claimsOf id).length : Int) ≤ row.maxAttempts

/-- From one state to a later one no attempt counter falls, no limit moves, and a
run that has ended keeps every column and is not handed out again. -/
structure Progressed (state later : QueueState) : Prop where
  counters : ∀ id row, state.db.run? id = some row → ∃ row', later.db.run? id = some row' ∧
    row.attempts ≤ row'.attempts ∧ row'.maxAttempts = row.maxAttempts
  final : ∀ id row, state.db.run? id = some row → row.status = .succeeded ∨ row.status = .failed →
    later.db.run? id = some row ∧ later.claimsOf id = state.claimsOf id

theorem Progressed.refl (state : QueueState) : Progressed state state :=
  ⟨fun _ row found => ⟨row, found, le_refl _, rfl⟩, fun _ _ found _ => ⟨found, rfl⟩⟩

theorem Progressed.trans {first second third : QueueState} (early : Progressed first second)
    (late : Progressed second third) : Progressed first third := by
  refine ⟨fun id row found => ?_, fun id row found finished => ?_⟩
  · obtain ⟨middle, between, rises, keeps⟩ := early.counters id row found
    obtain ⟨last, after, risesAgain, keepsAgain⟩ := late.counters id middle between
    exact ⟨last, after, le_trans rises risesAgain, keepsAgain.trans keeps⟩
  · obtain ⟨between, same⟩ := early.final id row found finished
    obtain ⟨after, sameAgain⟩ := late.final id row between finished
    exact ⟨after, sameAgain.trans same⟩

/-- What a call did is progress on every run: it leaves the run alone or takes one
action on it. -/
theorem progressed_performed {state : QueueState} {now : Timestamp} {operation : Operation}
    {answer : Answer} {db : Database} (effect : Performed now operation answer state.db db) :
    Progressed state (state.after now operation answer db) := by
  refine ⟨fun id row found => ?_, fun id row found finished => ?_⟩
  · rcases effect.kept_or_changed found with
      kept | ⟨action, before, after, -, change, rfl, stored⟩
    · exact ⟨row, kept, le_refl _, rfl⟩
    · exact ⟨after.row, stored, change.attempts_le, change.sameRequest.maxAttempts⟩
  · obtain ⟨before, dossier, rfl⟩ := run?_eq_some_iff.mp found
    obtain ⟨action, acts, acted⟩ := effect.acted id
    have extended : (state.after now operation answer db).claimsOf id =
        state.claimsOf id ++ actionClaims action := by
      rw [← handed_of_acts acts]
      simp [claimsOf, QueueState.after]
    rw [dossier] at acted
    cases action with
    | none =>
      exact ⟨run?_eq_some_iff.mpr ⟨before, acted, rfl⟩,
        extended.trans (List.append_nil _)⟩
    | some action =>
      obtain ⟨after, written, change⟩ := acted
      obtain ⟨same, payload, rfl⟩ := change.ended finished
      exact ⟨run?_eq_some_iff.mpr ⟨after, written, same⟩, extended.trans (List.append_nil _)⟩

/-- One committed call makes progress on every run. -/
theorem progressed_step {allowed : QueueState → Operation → Prop} {state state' : QueueState}
    (sound : Sound state) (step : Step allowed state state') : Progressed state state' := by
  cases step with
  | call permitted performed =>
    exact progressed_performed (perform_effect sound.linked performed)

/-- Distinct attempts within each run make the pairs of run and attempt distinct. -/
theorem nodup_attempts {handed : List ClaimedRun}
    (perRun : ∀ id, Numbered (handed.filter (fun run => decide (run.id = id)))) :
    (handed.map (fun run => (run.id, run.attempts))).Nodup := by
  rw [List.Nodup, List.pairwise_map, List.pairwise_iff_forall_sublist]
  intro first second chosen same
  obtain ⟨sameRun, sameAttempt⟩ := Prod.mk.inj same
  have within := chosen.filter (fun run => decide (run.id = second.id))
  simp only [List.filter_cons, sameRun, decide_true, ↓reduceIte, List.filter_nil] at within
  have distinct := (perRun second.id).nodup
  rw [List.Nodup, List.pairwise_map, List.pairwise_iff_forall_sublist] at distinct
  exact distinct within sameAttempt

/-- Claims are accounted for if every run that was claimed has a history. -/
theorem accounted_of_histories {state : QueueState} (histories : ∀ id, state.claimsOf id = [] ∨
    RunHistory (state.claimsOf id) (state.db.dossier? id)) : Accounted state := by
  have numbered : ∀ id, Numbered (state.claimsOf id) := by
    intro id
    rcases histories id with unclaimed | history
    · rw [unclaimed]
      rfl
    cases found : state.db.dossier? id with
    | none =>
      rw [found] at history
      rw [show state.claimsOf id = [] from history]
      rfl
    | some dossier =>
      rw [found] at history
      exact history.2.1
  refine ⟨numbered, nodup_attempts numbered, fun id some_ => ?_⟩
  have history := (histories id).resolve_left some_
  cases found : state.db.dossier? id with
  | none =>
    rw [found] at history
    exact absurd history some_
  | some dossier =>
    rw [found] at history
    obtain ⟨journal, -, -⟩ := history
    have counted := journal.word.attempts_bounds.1
    rw [List.length_map] at counted
    exact ⟨_, run?_eq_some_iff.mpr ⟨dossier, found, rfl⟩, le_trans counted journal.bounded⟩

/-- A sound record is accounted for. -/
theorem Sound.accounted {state : QueueState} (sound : Sound state) : Accounted state :=
  accounted_of_histories (fun id => Or.inr (sound.runs id))

/-- Attempt accounting and the finality of terminal states, over whole histories
of calls by any callers in any order. -/
theorem attempts_accounted {state later : QueueState} (reached : Reachable anyCall state)
    (continued : Runs (Step anyCall) state later) :
    Accounted state ∧ Progressed state later := by
  have sound := sound_of_reachable reached
  exact ⟨sound.accounted, Runs.relates continued (fun _ _ sound step => sound_step sound step)
    sound Progressed.refl Progressed.trans (fun _ _ sound step => progressed_step sound step)⟩

/-- The run that was claimed twice, one attempt after the other. -/
theorem attempts_accounted_reclaimed : ∃ state,
    replay (next anyCall) reclaimed initial = some state ∧
    state.handed = [smallClaim (lit "w") 1 2, smallClaim (lit "w") 2 2] ∧
    Accounted state ∧ Progressed state state := by
  have ran : (replay (next anyCall) reclaimed initial).map QueueState.handed =
    some [smallClaim (lit "w") 1 2, smallClaim (lit "w") 2 2] := by rfl
  obtain ⟨state, replayed, handed⟩ := Option.map_eq_some_iff.mp ran
  obtain ⟨accounted, progressed⟩ := attempts_accounted (reachable_of_replay replayed) .refl
  exact ⟨state, replayed, handed, accounted, progressed⟩

end QueueState

end RlmApi
