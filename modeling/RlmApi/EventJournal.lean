import Mathlib.Computability.RegularExpressions
import RlmApi.Interleaving
import RlmApi.QueueHistory

/-!
# The event log as a journal

The interleaved client of the run queue: any number of clients run the store's
transactions, statement by statement, and a lost lease is reported only for a run
that a committed claim handed out. In every reachable world the committed events
of a run are a journal of its row: numbered without a gap, spelling a word of the
lifecycle, and agreeing with the row's status and attempt counter.
-/

namespace RlmApi

open RegularExpression

/-! ## The lifecycle as a regular expression -/

/-- `started (retry_scheduled | stale_recovered)`. -/
def lifecycleRound : RegularExpression EventType :=
  char .started * (char .retryScheduled + char .staleRecovered)

/-- Nothing, `started`, `started succeeded`, `started failed` or `failed`. -/
def lifecycleEnd : RegularExpression EventType :=
  1 + char .started + char .started * char .succeeded + char .started * char .failed +
    char .failed

/-- `queued`, and any number of completed rounds. -/
def lifecycleStart : RegularExpression EventType := char .queued * lifecycleRound.star

/-- The event types of a run in order, the reports of lost leases aside. -/
def lifecycleGrammar : RegularExpression EventType := lifecycleStart * lifecycleEnd

/-- The status an event stands for. -/
def EventType.status : EventType → Option RunStatus
  | .queued | .retryScheduled | .staleRecovered => some .queued
  | .started => some .running
  | .succeeded => some .succeeded
  | .failed => some .failed
  | .workerLeaseLost => none

/-- The word ends with a `failed` that no `started` precedes. -/
def endsUnstarted (word : List EventType) : Bool :=
  word.getLast? = some .failed && word.dropLast.getLast? ≠ some .started

/-- One more completed round. -/
theorem mem_lifecycleStart_append {word : List EventType} {closing : EventType}
    (rounds : word ∈ lifecycleStart.matches')
    (closes : closing = .retryScheduled ∨ closing = .staleRecovered) :
    word ++ [.started, closing] ∈ lifecycleStart.matches' := by
  have round : [.started, closing] ∈ lifecycleRound.matches' :=
    Language.mem_mul.mpr ⟨[.started], rfl, [closing], closes.imp (by rintro rfl; rfl)
      (by rintro rfl; rfl), rfl⟩
  obtain ⟨first, queued, rest, completed, rfl⟩ := Language.mem_mul.mp rounds
  obtain ⟨words, rfl, each⟩ := Language.mem_kstar.mp completed
  rw [List.append_assoc]
  refine Language.append_mem_mul queued (Language.mem_kstar.mpr
    ⟨words ++ [[.started, closing]], ?_, ?_⟩)
  · rw [List.flatten_append, List.flatten_singleton]
  · intro word member
    rcases List.mem_append.mp member with early | last
    · exact each word early
    · exact List.mem_singleton.mp last ▸ round

/-- Completed rounds spell the start of the grammar. They hold one start each, and
the last of their events queues the run. -/
theorem Rounds.spelled {n : Nat} {word : List EventType} (rounds : Rounds n word) :
    word ∈ lifecycleStart.matches' ∧ word.count .started = n ∧
      ∃ event, word.getLast? = some event ∧ event.status = some .queued := by
  induction rounds with
  | queued =>
    refine ⟨Language.mem_mul.mpr ⟨[.queued], rfl, [], Language.nil_mem_kstar _, rfl⟩, rfl, ?_⟩
    exact ⟨.queued, rfl, rfl⟩
  | retried earlier ih =>
    obtain ⟨spelled, counted, -⟩ := ih
    exact ⟨mem_lifecycleStart_append spelled (Or.inl rfl), by simp [counted],
      .retryScheduled, by simp, rfl⟩
  | recovered earlier ih =>
    obtain ⟨spelled, counted, -⟩ := ih
    exact ⟨mem_lifecycleStart_append spelled (Or.inr rfl), by simp [counted],
      .staleRecovered, by simp, rfl⟩

/-- Completed rounds followed by one of the ends. -/
theorem mem_lifecycleGrammar {word ending : List EventType}
    (rounds : word ∈ lifecycleStart.matches') (ends : lifecycleEnd.rmatch ending = true) :
    word ++ ending ∈ lifecycleGrammar.matches' :=
  Language.append_mem_mul rounds ((rmatch_iff_matches' _ _).mp ends)

/-- A lifecycle is a word of the grammar. Its last event stands for the status, and
the attempts are the starts, with one more for a failure that was never started. -/
theorem Lifecycle.spelled {status : RunStatus} {n : Nat} {attempts : Int} {word : List EventType}
    (spells : Lifecycle status n attempts word) :
    word ∈ lifecycleGrammar.matches' ∧ word.getLast?.bind EventType.status = some status ∧
      word.count .started = n ∧
      attempts = word.count .started + if endsUnstarted word then 1 else 0 := by
  cases spells with
  | @waiting _ word rounds =>
    obtain ⟨spelled, counted, event, last, queued⟩ := rounds.spelled
    have ended : endsUnstarted word = false := by
      rw [endsUnstarted, last]
      cases event <;> simp [EventType.status] at queued ⊢
    refine ⟨?_, by rw [last]; exact queued, counted, by simp [counted, ended]⟩
    exact List.append_nil word ▸ mem_lifecycleGrammar spelled rfl
  | executing rounds =>
    obtain ⟨spelled, counted, -⟩ := rounds.spelled
    exact ⟨mem_lifecycleGrammar spelled rfl, by simp [EventType.status], by simp [counted],
      by simp [counted, endsUnstarted]⟩
  | succeeded rounds =>
    obtain ⟨spelled, counted, -⟩ := rounds.spelled
    exact ⟨mem_lifecycleGrammar spelled rfl, by simp [EventType.status], by simp [counted],
      by simp [counted, endsUnstarted]⟩
  | failed rounds =>
    obtain ⟨spelled, counted, -⟩ := rounds.spelled
    refine ⟨mem_lifecycleGrammar spelled rfl, by simp [EventType.status], by simp [counted], ?_⟩
    simp [counted, endsUnstarted, List.dropLast_append_of_ne_nil]
  | quarantined rounds =>
    obtain ⟨spelled, counted, event, last, queued⟩ := rounds.spelled
    refine ⟨mem_lifecycleGrammar spelled rfl, by simp [EventType.status], by simp [counted], ?_⟩
    have unstarted : event ≠ .started := by
      rintro rfl
      cases queued
    simp [counted, endsUnstarted, last, unstarted]

/-! ## What a journal says -/

/-- The events of a run and its row agree. -/
structure Journaled (dossier : RunDossier) : Prop where
  consecutive : LogEntry.Consecutive dossier.entries
  grammar : lifecycle dossier.entries ∈ lifecycleGrammar.matches'
  status : (lifecycle dossier.entries).getLast?.bind EventType.status = some dossier.row.status
  started : (startedPayloads dossier.entries).map (Json.get? (lit "attempt")) =
    (List.range' 1 ((lifecycle dossier.entries).count .started)).map (fun n => some (.int n))
  attempts : dossier.row.attempts = (lifecycle dossier.entries).count .started +
    if endsUnstarted (lifecycle dossier.entries) then 1 else 0

/-- The payloads of the started events count the attempts. -/
theorem attempts_startedPayloads (workers : List Str) :
    ((workers.zipIdx 1).map (fun start => Json.obj (RunStore.startedPayload start.2 start.1))).map
        (Json.get? (lit "attempt")) =
      (List.range' 1 workers.length).map (fun n => some (.int n)) := by
  rw [List.map_map, ← List.zipIdx_map_snd 1 workers, List.map_map]
  refine List.map_congr_left (fun start _ => ?_)
  simp [Json.get?, RunStore.startedPayload, RunStore.jsonFields]

/-- The invariant of a dossier says all of it. -/
theorem Journal.journaled {workers : List Str} {dossier : RunDossier}
    (journal : Journal workers dossier) : Journaled dossier := by
  obtain ⟨grammar, status, counted, attempts⟩ := journal.word.spelled
  refine ⟨journal.consecutive, grammar, status, ?_, attempts⟩
  rw [journal.started, attempts_startedPayloads, counted]

/-! ## The interleaved queue -/

/-- What clients of the queue may call, each call at some time. -/
def queueProtocol :
    Protocol RunRow.id EventBody Outbox PyError Answer (Timestamp × Operation) where
  program call := call.2.transaction call.1
  known call := call.2.Known
  provides _ answer id := ∃ run ∈ answer.handed, run.id = id
  post call := call.2.Effect call.1
  ensured call := call.2.ensures call.1
  provided := by
    rintro call answer footprint _ effect ⟨run, handed, rfl⟩
    obtain ⟨action, acts, change⟩ := effect.acted run.id
    have started : run ∈ actionClaims action := by
      rw [← handed_of_acts acts]
      exact List.mem_filter.mpr ⟨handed, by simp⟩
    cases action with
    | none => cases started
    | some action =>
      cases found : footprint.touched run.id with
      | none => simp [found] at change
      | some touched => rfl
  starts answers call :=
    match call.2 with
    | .report run _ => ∃ earlier ∈ answers, run ∈ earlier.2.handed
    | _ => True
  promised := by
    rintro answers ⟨now, operation⟩ id starts known
    cases operation with
    | report run payload =>
      obtain rfl : id = run.id := known
      obtain ⟨earlier, answered, handed⟩ := starts
      exact ⟨earlier, answered, run, handed, rfl⟩
    | enqueue | claim | heartbeat | succeed | fail | recoverStale => exact False.elim known

/-- The clients of the queue, with their open sessions. -/
abbrev QueueWorld (τ : Type) :=
  World RunRow.id EventBody Outbox PyError Answer (Timestamp × Operation) τ

/-- What is committed. -/
def QueueWorld.db {τ : Type} (world : QueueWorld τ) : Database := world.committed

/-- Every dossier has a history. -/
def Recorded (db : Database) : Prop :=
  db.Linked ∧ ∀ id, ∃ claims, RunHistory claims (db.dossier? id)

/-- A commit keeps every run's history, because it is the effect of its call. -/
theorem Recorded.commits {db db' : Database} (recorded : Recorded db)
    (commits : World.Commits queueProtocol db db') : Recorded db' := by
  obtain ⟨⟨now, operation⟩, answer, footprint, effect, leads⟩ := commits
  have performed : Performed now operation answer db db' :=
    Operation.Effect.performed effect leads
  refine ⟨performed.linked, fun id => ?_⟩
  obtain ⟨claims, history⟩ := recorded.2 id
  obtain ⟨action, -, acted⟩ := performed.acted id
  exact ⟨_, history.acted acted⟩

/-- A serial history is an interleaved run: its calls can be made one at a time, by
any client. Induction on the calls, carrying the state reached so far. -/
theorem reachable_of_serial {τ : Type} [DecidableEq τ] (client : τ)
    {allowed : QueueState → Operation → Prop}
    [∀ state operation, Decidable (allowed state operation)]
    {calls : List (Timestamp × Operation)} {before after : QueueState}
    {answers : List ((Timestamp × Operation) × Answer)}
    (starts : ∀ call ∈ calls, ∀ answers, queueProtocol.starts answers call)
    (replayed : replay (QueueState.next allowed) calls before = some after) :
    ∃ answered, Runs (World.Step queueProtocol)
      (⟨before.db, fun _ => none, answers⟩ : QueueWorld τ) ⟨after.db, fun _ => none, answered⟩ := by
  induction calls generalizing before answers with
  | nil =>
    rw [show before = after from Option.some.inj replayed]
    exact ⟨answers, .refl⟩
  | cons call rest ih =>
    obtain ⟨middle, taken, remaining⟩ := Option.bind_eq_some_iff.mp replayed
    unfold QueueState.next at taken
    split at taken
    · split at taken
      · next answer db performed =>
        have first := World.runs_of_execute client (starts call List.mem_cons_self answers)
          performed
        rw [← Option.some.inj taken] at remaining
        obtain ⟨answered, run⟩ := ih
          (fun other member => starts other (List.mem_cons_of_mem call member)) remaining
        exact ⟨answered, first.trans run⟩
      · cases taken
    · cases taken

/-- Under any interleaving of the store's transactions, the committed events of
every run are a journal of its row, and a run without a row has none. -/
theorem event_journal {τ : Type} [DecidableEq τ] {world : QueueWorld τ}
    (reachable : world.Reachable queueProtocol Database.empty) (id : Str) :
    (∀ row, world.db.run? id = some row → Journaled ⟨row, world.db.eventsOf id⟩) ∧
      (world.db.run? id = none → world.db.eventsOf id = []) := by
  have linked : Database.empty.Linked := fun _ _ => rfl
  have recorded : Recorded world.db :=
    (reachable.commits linked).keeps (fun _ _ => Recorded.commits) ⟨linked, fun _ => ⟨[], rfl⟩⟩
  refine ⟨fun row found => ?_, recorded.1 id⟩
  obtain ⟨claims, history⟩ := recorded.2 id
  have dossier : Store.dossier? world.db id = some ⟨row, world.db.eventsOf id⟩ :=
    Store.dossier?_eq_some.mpr ⟨found, rfl⟩
  rw [dossier] at history
  exact history.1.journaled

theorem event_journal_reclaimed :
    ∃ world : QueueWorld Nat, world.Reachable queueProtocol Database.empty ∧
      ∃ row, world.db.run? smallId.text = some row ∧ row.status = .running ∧ row.attempts = 2 ∧
        Journaled ⟨row, world.db.eventsOf smallId.text⟩ := by
  have starts : ∀ call ∈ reclaimed, ∀ answers, queueProtocol.starts answers call := by
    simp [reclaimed, queueProtocol]
  obtain ⟨state, replayed, row, found, status, attempts⟩ :
      ∃ state,
        replay (QueueState.next QueueState.anyCall) reclaimed QueueState.initial = some state ∧
        ∃ row, state.db.run? smallId.text = some row ∧ row.status = .running ∧ row.attempts = 2 :=
    ⟨_, rfl, _, rfl, rfl, rfl⟩
  obtain ⟨answered, run⟩ := reachable_of_serial 0 starts replayed
  exact ⟨_, run, row, found, status, attempts, (event_journal run smallId.text).1 row found⟩

end RlmApi
