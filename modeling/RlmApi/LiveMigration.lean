import RlmApi.LegacyMigration
import RlmApi.RequestProvenance

/-!
# Migration 004 on a live queue

The migration is made to be run repeatedly. Once the service has used the database, its
updates of `rlm_runs` meet rows that the store has written: no context is null, and no
`corpus_ref` holds one. All that is left for them to do is to fail queued runs with nothing
but spaces for a context, and those no worker can be given.
-/

namespace RlmApi

open RunStore Sql

namespace Migration004

/-- The three updates of `rlm_runs`. -/
inductive DataStep where
  | recoverContext
  | failMissing
  | emptyContext
deriving DecidableEq

namespace DataStep

variable {render : Json → Str}

/-- Its `WHERE`. -/
def condition (render : Json → Str) : DataStep → LegacyRun → Truth
  | .recoverContext => recoverable render
  | .failMissing => unrecoverable
  | .emptyContext => historical

/-- Its `SET`, at the time of its transaction. -/
def set (render : Json → Str) (now : Timestamp) : DataStep → LegacyRun → LegacyRun
  | .recoverContext => Migration004.recoverContext render now
  | .failMissing => Migration004.failMissing now
  | .emptyContext => Migration004.emptyContext

/-- The migration of a legacy table is the three of them in turn. -/
theorem migrate_eq_steps (render : Json → Str) (recovered failed : Timestamp)
    (rows : List LegacyRun) :
    migrate render recovered failed rows =
      [(recoverContext, recovered), (failMissing, failed), (emptyContext, failed)].foldl
        (fun rows step => update (step.1.condition render) (step.1.set render step.2) rows) rows :=
  rfl

end DataStep

end Migration004

open Migration004

/-- The columns of a stored run that the updates read or write. -/
def RunRow.legacy (row : RunRow) : LegacyRun where
  id := row.id
  status := row.status
  context := some row.context
  corpusRef := row.corpusRef
  error := row.error
  completedAt := row.completedAt
  updatedAt := row.updatedAt
  workerId := row.workerId
  workerHeartbeatAt := row.workerHeartbeatAt

/-- The run with other values in these columns. No context is null by now. -/
def RunRow.overwritten (row : RunRow) (columns : LegacyRun) : RunRow :=
  { row with
    status := columns.status
    context := columns.context.getD row.context
    corpusRef := columns.corpusRef
    error := columns.error
    completedAt := columns.completedAt
    updatedAt := columns.updatedAt
    workerId := columns.workerId
    workerHeartbeatAt := columns.workerHeartbeatAt }

theorem RunRow.overwritten_id (row : RunRow) (columns : LegacyRun) :
    (row.overwritten columns).id = row.id := rfl

/-- One update of the live table. -/
def Database.migrated (render : Json → Str) (update : DataStep) (now : Timestamp) (db : Database) :
    Database :=
  { db with
    table := db.table.modify
      (fun row => decide (Selects (update.condition render row.legacy)))
      (fun row => row.overwritten (update.set render now row.legacy))
      (fun row => row.overwritten_id _) }

/-- The version of a run that the migration fails. -/
def withdrawnVersion (now : Timestamp) (row : RunRow) : RunRow :=
  row.overwritten (failMissing now row.legacy)

/-! ## What an update does to a stored run -/

section Rows

variable {render : Json → Str} {update : DataStep} {now : Timestamp} {row : RunRow}
  {arguments : EnqueueArguments}

/-- What `enqueue` stores as `corpus_ref` has no context. -/
theorem inlineContext_enqueued (enqueued : row.EnqueuedBy arguments) :
    row.legacy.inlineContext render = none := by
  obtain ⟨now, runId, same⟩ := enqueued.same
  have stored : row.corpusRef = some (.obj (jsonFields [("storage", .str (lit "inline"))])) :=
    same.corpusRef
  simp only [LegacyRun.inlineContext, RunRow.legacy, stored]
  rfl

/-- An update selects a stored run only to fail it, and only where its context is empty
but for spaces. -/
theorem selects_legacy_iff (enqueued : row.EnqueuedBy arguments) :
    Selects (update.condition render row.legacy) ↔ update = .failMissing ∧
      (row.status = .queued ∨ row.status = .running) ∧ ¬ Usable row.context := by
  cases update with
  | recoverContext =>
    rw [DataStep.condition, selects_recoverable_iff, inlineContext_enqueued enqueued]
    simp
  | failMissing =>
    rw [DataStep.condition, selects_unrecoverable_iff]
    simp [LegacyRun.Pending, Missing, RunRow.legacy]
  | emptyContext =>
    rw [DataStep.condition, selects_historical_iff]
    simp [RunRow.legacy]

/-- A run whose context is empty but for spaces is never handed out. -/
theorem undecodable_of_unusable {workerId : Str} (unusable : ¬ Usable row.context) :
    ∃ error, decodeClaimedRun row.returning workerId = .error error := by
  cases decoded : decodeClaimedRun row.returning workerId with
  | error error => exact ⟨error, rfl⟩
  | ok run =>
    obtain ⟨held, formed⟩ := (decodeClaimedRun_ok_iff _ _ _).mp decoded
    have visible := usable_of_not_blank formed.context
    rw [← Column.text.inj held.context] at visible
    exact absurd visible unusable

end Rows

namespace QueueState

/-- One update of the migration while the queue is in use. -/
def migrated (render : Json → Str) (update : DataStep) (now : Timestamp) (state : QueueState) :
    QueueState :=
  { state with db := state.db.migrated render update now }

/-- One committed call, or one update of the migration. -/
inductive LiveStep (render : Json → Str) : QueueState → QueueState → Prop
  | call {state state' : QueueState} (step : Step anyCall state state') :
      LiveStep render state state'
  | migrate {state : QueueState} {update : DataStep} {now : Timestamp} :
      LiveStep render state (state.migrated render update now)

/-! ## The invariant -/

/-- The migration has failed the run before anybody was given it. Its events do not
say so. -/
structure Withdrawn (claims : List ClaimedRun) (dossier : RunDossier) : Prop where
  unclaimed : claims = []
  failed : dossier.row.status = .failed
  unusable : ¬ Usable dossier.row.context
  word : lifecycle dossier.entries = [.queued]

/-- The history of a run that may have been withdrawn. -/
def LiveHistory (claims : List ClaimedRun) (dossier : Option RunDossier) : Prop :=
  RunHistory claims dossier ∨ ∃ withdrawn, dossier = some withdrawn ∧ Withdrawn claims withdrawn

/-- The record of a queue whose migration is repeated. -/
structure LiveSound (state : QueueState) : Prop where
  linked : state.db.Linked
  traced : state.Traced
  runs : ∀ id, LiveHistory (state.claimsOf id) (state.db.dossier? id)

section Steps

variable {render : Json → Str} {update : DataStep} {now : Timestamp}
  {state state' later : QueueState}
  {claims : List ClaimedRun} {id : Str} {row : RunRow}

/-- Nothing but a report happens to a run that was withdrawn. -/
theorem Withdrawn.acted {before : RunDossier} {after : Option RunDossier}
    {action : Option RunAction} (withdrawn : Withdrawn claims before)
    (acted : Acted now action (some before) after) :
    ∃ dossier, after = some dossier ∧ Withdrawn (claims ++ actionClaims action) dossier := by
  cases action with
  | none => exact ⟨before, acted, by simpa [actionClaims] using withdrawn⟩
  | some action =>
    obtain ⟨dossier, rfl, change⟩ := acted
    obtain ⟨same, payload, rfl⟩ := change.ended (Or.inr withdrawn.failed)
    have unclaimed : claims ++ actionClaims (some (.report payload)) = [] := by
      simp [actionClaims, RunAction.claims, withdrawn.unclaimed]
    refine ⟨dossier, rfl, unclaimed, same ▸ withdrawn.failed, same ▸ withdrawn.unusable, ?_⟩
    cases change with
    | report =>
      rw [lifecycle_record, withdrawn.word]
      rfl

/-- A call keeps the histories, withdrawn or not. -/
theorem LiveSound.performed {operation : Operation} {answer : Answer} {db : Database}
    (sound : LiveSound state) (effect : Performed now operation answer state.db db) :
    LiveSound (state.after now operation answer db) := by
  refine ⟨effect.linked, sound.traced.performed effect, fun id => ?_⟩
  obtain ⟨action, acts, acted⟩ := effect.acted id
  have extended : (state.after now operation answer db).claimsOf id =
      state.claimsOf id ++ actionClaims action := by
    rw [← handed_of_acts acts]
    simp [claimsOf, QueueState.after]
  rw [extended]
  rcases sound.runs id with history | ⟨withdrawn, found, ended⟩
  · exact Or.inl (history.acted acted)
  · rw [found] at acted
    exact Or.inr (ended.acted acted)

/-! ## What the migration does -/

theorem run?_migrated (render : Json → Str) (update : DataStep) (now : Timestamp) (db : Database)
    (id : Str) : (db.migrated render update now).run? id = (db.run? id).map (fun row =>
      if Selects (update.condition render row.legacy) then
        row.overwritten (update.set render now row.legacy) else row) := by
  simp only [Database.run?, Database.migrated, Table.find?_modify, decide_eq_true_eq]

theorem dossier?_migrated (render : Json → Str) (update : DataStep) (now : Timestamp)
    (db : Database) (id : Str) : (db.migrated render update now).dossier? id =
      (db.dossier? id).map (fun dossier =>
        if Selects (update.condition render dossier.row.legacy) then
          dossier.rewrite (dossier.row.overwritten (update.set render now dossier.row.legacy))
        else dossier) := by
  have stored := run?_migrated render update now db id
  unfold Database.run? at stored
  simp only [Store.dossier?, stored, Option.map_map]
  congr 1
  funext row
  simp only [Function.comp_apply]
  split <;> rfl

/-- A claim was decoded from a run with a usable context. -/
theorem unclaimed_of_unusable (sound : LiveSound state) (found : state.db.run? id = some row)
    (unusable : ¬ Usable row.context) : state.claimsOf id = [] := by
  rw [List.eq_nil_iff_forall_not_mem]
  intro run member
  obtain ⟨handed, same⟩ := List.mem_filter.mp member
  obtain ⟨row', found', version, workerId, kept, decoded⟩ := sound.traced.claims run handed
  rw [of_decide_eq_true same, found] at found'
  obtain rfl : row = row' := Option.some.inj found'
  rw [kept.context] at unusable
  obtain ⟨error, refused⟩ := undecodable_of_unusable unusable
  rw [refused] at decoded
  cases decoded

/-- A run that an update selects is queued and was never claimed. -/
theorem LiveSound.selected (sound : LiveSound state) {dossier : RunDossier}
    (found : state.db.dossier? id = some dossier)
    (selects : Selects (update.condition render dossier.row.legacy)) :
    update = .failMissing ∧ dossier.row.status = .queued ∧ dossier.row.attempts = 0 ∧
      ¬ Usable dossier.row.context ∧ state.claimsOf id = [] ∧
        lifecycle dossier.entries = [.queued] := by
  have stored := run?_eq_some_iff.mpr ⟨dossier, found, rfl⟩
  obtain ⟨arguments, enqueued⟩ := sound.traced.runs id _ stored
  obtain ⟨rfl, pending, unusable⟩ := (selects_legacy_iff enqueued).mp selects
  have unclaimed := unclaimed_of_unusable sound stored unusable
  rcases sound.runs id with history | ⟨withdrawn, same, ended⟩
  · rw [found, unclaimed] at history
    obtain ⟨journal, -, -⟩ := history
    have word := journal.word
    rcases pending with queued | running
    · rw [queued] at word
      obtain ⟨attempts, rounds⟩ := word.of_queued
      refine ⟨rfl, queued, attempts, unusable, unclaimed, ?_⟩
      generalize lifecycle dossier.entries = events at rounds
      cases rounds with
      | queued => rfl
    · rw [running] at word
      obtain ⟨_, _, impossible, -⟩ := word.of_running
      cases impossible
  · rw [found] at same
    obtain rfl : dossier = withdrawn := Option.some.inj same
    rw [ended.failed] at pending
    simp at pending

/-- An update leaves a run alone, or withdraws it. -/
theorem LiveSound.migrated_cases (sound : LiveSound state) {dossier : RunDossier}
    (found : state.db.dossier? id = some dossier) (render : Json → Str) (update : DataStep)
    (now : Timestamp) :
    (state.migrated render update now).db.dossier? id = some dossier ∨
      (state.migrated render update now).db.dossier? id =
          some (dossier.rewrite (withdrawnVersion now dossier.row)) ∧
        update = .failMissing ∧ dossier.row.status = .queued ∧ dossier.row.attempts = 0 ∧
          ¬ Usable dossier.row.context ∧ state.claimsOf id = [] ∧
            lifecycle dossier.entries = [.queued] := by
  have after := dossier?_migrated render update now state.db id
  rw [found, Option.map_some] at after
  by_cases selects : Selects (update.condition render dossier.row.legacy)
  · have known := sound.selected found selects
    rw [if_pos selects, known.1] at after
    rw [known.1]
    exact Or.inr ⟨after, rfl, known.2⟩
  · rw [if_neg selects] at after
    exact Or.inl after

/-- An update stores no new run. -/
theorem dossier?_of_migrated {dossier' : RunDossier}
    (found : (state.migrated render update now).db.dossier? id = some dossier') :
    ∃ dossier, state.db.dossier? id = some dossier := by
  have after := dossier?_migrated render update now state.db id
  rw [show (state.db.migrated render update now).dossier? id = some dossier' from found] at after
  obtain ⟨dossier, stored, -⟩ := Option.map_eq_some_iff.mp after.symm
  exact ⟨dossier, stored⟩

/-- What was requested is left alone. -/
theorem sameRequest_withdrawn (now : Timestamp) (row : RunRow) :
    SameRequest row (withdrawnVersion now row) :=
  ⟨rfl, rfl, rfl, rfl, rfl, rfl, rfl, rfl, rfl, rfl, rfl, rfl⟩

/-- An update keeps the request of a run. -/
theorem LiveSound.sameRequest (sound : LiveSound state) (found : state.db.run? id = some row)
    (render : Json → Str) (update : DataStep) (now : Timestamp) :
    ∃ row', (state.migrated render update now).db.run? id = some row' ∧ SameRequest row row' := by
  obtain ⟨dossier, stored, rfl⟩ := run?_eq_some_iff.mp found
  rcases sound.migrated_cases stored render update now with kept | ⟨withdrawn, -⟩
  · exact ⟨_, run?_eq_some_iff.mpr ⟨_, kept, rfl⟩, SameRequest.refl _⟩
  · exact ⟨_, run?_eq_some_iff.mpr ⟨_, withdrawn, rfl⟩, sameRequest_withdrawn now _⟩

/-- An update keeps the histories, up to the runs that it withdraws. -/
theorem LiveSound.migrated (sound : LiveSound state) (render : Json → Str) (update : DataStep)
    (now : Timestamp) : LiveSound (state.migrated render update now) := by
  refine ⟨fun id absent => ?_, ⟨fun id row found => ?_, fun run member => ?_⟩, fun id => ?_⟩
  · have before := run?_migrated render update now state.db id
    rw [show (state.db.migrated render update now).run? id = none from absent] at before
    exact sound.linked id (Option.map_eq_none_iff.mp before.symm)
  · obtain ⟨dossier', stored, rfl⟩ := run?_eq_some_iff.mp found
    obtain ⟨dossier, before⟩ := dossier?_of_migrated stored
    have earlier := run?_eq_some_iff.mpr ⟨dossier, before, rfl⟩
    obtain ⟨arguments, enqueued⟩ := sound.traced.runs id _ earlier
    obtain ⟨row', after, same⟩ := sound.sameRequest earlier render update now
    rw [found] at after
    exact ⟨arguments, Option.some.inj after ▸ enqueued.transfer same⟩
  · obtain ⟨row, found, decoded⟩ := sound.traced.claims run member
    obtain ⟨row', after, same⟩ := sound.sameRequest found render update now
    exact ⟨row', after, decoded.transfer same⟩
  · change LiveHistory (state.claimsOf id) ((state.migrated render update now).db.dossier? id)
    cases found : state.db.dossier? id with
    | none =>
      have after := dossier?_migrated render update now state.db id
      rw [found, Option.map_none, ← found] at after
      rw [show (state.migrated render update now).db.dossier? id = _ from after]
      exact sound.runs id
    | some dossier =>
      rcases sound.migrated_cases found render update now with
        kept | ⟨withdrawn, -, -, -, unusable, unclaimed, word⟩
      · rw [kept, ← found]
        exact sound.runs id
      · exact Or.inr ⟨_, withdrawn, unclaimed, rfl, unusable, word⟩

theorem LiveSound.step (sound : LiveSound state) (taken : LiveStep render state state') :
    LiveSound state' := by
  cases taken with
  | call step =>
    cases step with
    | call permitted performed => exact sound.performed (perform_effect sound.linked performed)
  | migrate => exact sound.migrated _ _ _

theorem liveSound_initial : LiveSound initial :=
  ⟨sound_initial.linked, traced_initial, fun id => Or.inl (sound_initial.runs id)⟩

/-! ## Progress -/

/-- An update is progress on every run: it leaves finished runs alone. -/
theorem LiveSound.progressed_migrated (sound : LiveSound state) (render : Json → Str)
    (update : DataStep) (now : Timestamp) :
    Progressed state (state.migrated render update now) := by
  refine ⟨fun id row found => ?_, fun id row found finished => ?_⟩ <;>
    obtain ⟨dossier, stored, rfl⟩ := run?_eq_some_iff.mp found <;>
    rcases sound.migrated_cases stored render update now with kept | ⟨withdrawn, -, queued, -⟩
  · exact ⟨_, run?_eq_some_iff.mpr ⟨_, kept, rfl⟩, le_refl _, rfl⟩
  · exact ⟨_, run?_eq_some_iff.mpr ⟨_, withdrawn, rfl⟩, le_refl _, rfl⟩
  · exact ⟨run?_eq_some_iff.mpr ⟨_, kept, rfl⟩, rfl⟩
  · rw [queued] at finished
    simp at finished

theorem LiveSound.progressed (sound : LiveSound state) (taken : LiveStep render state state') :
    Progressed state state' := by
  cases taken with
  | call step =>
    cases step with
    | call permitted performed =>
      exact progressed_performed (perform_effect sound.linked performed)
  | migrate => exact sound.progressed_migrated _ _ _

/-! ## Runs -/

/-- What an update of the migration does to a stored run: nothing, or it fails a queued
run with nothing but spaces for a context, that nobody was given and that nobody could be
given. -/
def Harmless (render : Json → Str) (update : DataStep) (now : Timestamp) (state : QueueState)
    (id : Str) (row : RunRow) : Prop :=
  (state.migrated render update now).db.run? id = some row ∨
    (state.migrated render update now).db.run? id = some (withdrawnVersion now row) ∧
      update = .failMissing ∧ row.status = .queued ∧ (∀ c ∈ row.context, sqlSpace c = true) ∧
        row.attempts = 0 ∧ state.claimsOf id = [] ∧ ∀ time workerId, ∃ error,
          decodeClaimedRun (claimedVersion time workerId row).returning workerId = .error error

theorem LiveSound.harmless (sound : LiveSound state) (found : state.db.run? id = some row) :
    Harmless render update now state id row := by
  obtain ⟨dossier, stored, rfl⟩ := run?_eq_some_iff.mp found
  rcases sound.migrated_cases stored render update now with
    kept | ⟨withdrawn, failing, queued, attempts, unusable, unclaimed, -⟩
  · exact Or.inl (run?_eq_some_iff.mpr ⟨_, kept, rfl⟩)
  · have spaces : ∀ c ∈ dossier.row.context, sqlSpace c = true :=
      not_not.mp (mt (usable_iff _).mpr unusable)
    refine Or.inr ⟨run?_eq_some_iff.mpr ⟨_, withdrawn, rfl⟩, failing, queued, spaces, attempts,
      unclaimed, fun time workerId => ?_⟩
    have blank : ¬ Usable (claimedVersion time workerId dossier.row).context := unusable
    exact undecodable_of_unusable blank

/-- In every history of the queue in which the updates of the migration are repeated
between any calls, an update leaves every run alone but queued ones with nothing but spaces
for a context, which could not be started; attempts are accounted for and runs that have
ended are final. -/
theorem migration_repeatable (reached : Runs (LiveStep render) initial state) :
    Accounted state ∧
    (∀ later, Runs (LiveStep render) state later → Progressed state later) ∧
    ∀ update now id row, state.db.run? id = some row →
      Harmless render update now state id row := by
  have sound : LiveSound state :=
    reached.keeps (fun _ _ sound taken => sound.step taken) liveSound_initial
  refine ⟨accounted_of_histories (fun id => ?_), fun later run => ?_,
    fun update now id row found => sound.harmless found⟩
  · rcases sound.runs id with history | ⟨_, -, withdrawn⟩
    · exact Or.inr history
    · exact Or.inl withdrawn.unclaimed
  · exact run.relates (fun _ _ sound taken => sound.step taken) sound Progressed.refl
      Progressed.trans (fun _ _ sound taken => sound.progressed taken)

/-- A request of two spaces. -/
def blankRequest : EnqueueArguments := { smallRequest 2 with context := lit "  " }

/-- It is failed by the second update, and not handed out afterwards. -/
theorem migration_repeatable_blank : ∃ state later : QueueState,
    (state.db.run? smallId.text).map RunRow.status = some .queued ∧
    (later.db.run? smallId.text).map RunRow.status = some .failed ∧
    later.handed = [] ∧ Accounted later ∧ Progressed state later ∧
    ∃ row, state.db.run? smallId.text = some row ∧
      Harmless (fun _ => []) .failMissing (seconds 1) state smallId.text row := by
  obtain ⟨queued, refused, enqueued, claimed, waiting, failed⟩ : ∃ queued refused : Database,
      perform 0 (fun _ => false) (.enqueue smallId blankRequest) initial.db =
        .ok (.enqueued smallId.text, queued) ∧
      perform (seconds 2) (fun _ => false) (.claim (lit "w") 10)
          (queued.migrated (fun _ => []) .failMissing (seconds 1)) = .ok (.claimed none, refused) ∧
      (queued.run? smallId.text).map RunRow.status = some .queued ∧
      (refused.run? smallId.text).map RunRow.status = some .failed :=
    ⟨_, _, rfl, rfl, rfl, rfl⟩
  let asked := initial.after 0 (.enqueue smallId blankRequest) (.enqueued smallId.text) queued
  let withdrawn := asked.migrated (fun _ => []) .failMissing (seconds 1)
  have first : LiveStep (fun _ => []) initial asked := .call (.call trivial enqueued)
  have second : LiveStep (fun _ => []) asked withdrawn := .migrate
  have third : LiveStep (fun _ => []) withdrawn _ := .call (.call trivial claimed)
  have early : Runs (LiveStep (fun _ => [])) initial asked := .single first
  have late : Runs (LiveStep (fun _ => [])) asked _ :=
    (Relation.ReflTransGen.single second).tail third
  obtain ⟨-, progress, harmless⟩ := migration_repeatable early
  obtain ⟨accounted, -⟩ := migration_repeatable (early.trans late)
  obtain ⟨row, stored, -⟩ := Option.map_eq_some_iff.mp waiting
  exact ⟨asked, _, waiting, failed, rfl, accounted, progress _ late, row, stored,
    harmless .failMissing (seconds 1) _ row stored⟩

end Steps

end QueueState

end RlmApi
