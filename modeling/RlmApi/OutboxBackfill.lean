import RlmApi.Configuration
import RlmApi.JsonDumps
import RlmApi.LegacyMigration
import RlmApi.RollingDeployment

/-!
# Migration of legacy summaries

Summaries that were stored before the outbox had columns for the embedding configuration
are given that of their run, as `rlm_runs.model_config` has it. The migration then checks
that no summary is left without one.

The configuration went into the run as JSON and comes out as text, so what it comes to
depends on the text: a model loses the spaces around it, and a dimension of more than nine
digits is not read.
-/

namespace RlmApi

open Sql RunStore

/-- A row of `rlm_summary_outbox` before its embedding columns are declared `NOT NULL`. -/
structure LegacySummary where
  runId : Str
  embeddingModel : Option Str
  embeddingDim : Option Int
  updatedAt : Timestamp
deriving DecidableEq

/-- The row as the migration sees it. -/
def OutboxRow.legacy (row : OutboxRow) : LegacySummary :=
  ⟨row.runId, some row.embeddingModel, some row.embeddingDim, row.updatedAt⟩

namespace Migration004

/-- `text ~ '^[1-9][0-9]{0,8}$'`. -/
def isDimension : Str → Bool
  | [] => false
  | first :: rest =>
    decide (49 ≤ first.val ∧ first.val ≤ 57) && decide (rest.length ≤ 8) &&
      rest.all JsonScanner.isDigit

/-- `text::INTEGER`, of digits. -/
def digitsValue (text : Str) : Int :=
  text.foldl (fun total c => 10 * total + (c.val - 48 : Int)) 0

section Backfill

variable (render : Json → Str)

/-- `NULLIF(btrim(model_config->>'embedding_model'), '')`. -/
def configuredModel (modelConfig : Json) : Option Str :=
  nullIf (((modelConfig.get? (lit "embedding_model")).bind (jsonText render)).map btrim) []

/-- The `CASE` over `model_config->>'embedding_dim'`. -/
def configuredDim (modelConfig : Json) : Option Int :=
  ((modelConfig.get? (lit "embedding_dim")).bind (jsonText render)).bind (fun text =>
    if isDimension text then some (digitsValue text) else none)

/-- `embedding_model IS NULL OR embedding_dim IS NULL`. -/
def lacksEmbedding (row : LegacySummary) : Truth :=
  disj (isNull row.embeddingModel) (isNull row.embeddingDim)

/-- What the update sets. -/
def fillEmbedding (modelConfig : Json) (now : Timestamp) (row : LegacySummary) : LegacySummary :=
  { row with
    embeddingModel := configuredModel render modelConfig
    embeddingDim := configuredDim render modelConfig
    updatedAt := now }

/-- `UPDATE … FROM rlm_runs AS run WHERE run.id = outbox.run_id AND …`, on one row. -/
def fillRow (modelConfigs : Str → Option Json) (now : Timestamp) (row : LegacySummary) :
    LegacySummary :=
  match modelConfigs row.runId with
  | some modelConfig => updateRow lacksEmbedding (fillEmbedding render modelConfig now) row
  | none => row

/-- `rlm_summary_outbox_embedding_not_null`. -/
def embeddingCheck (row : LegacySummary) : Truth :=
  conj (conj (isNotNull row.embeddingModel) (isNotNull row.embeddingDim))
    (row.embeddingDim.map (fun dim => decide (0 < dim)))

/-- The update and the validation of the constraint, which raises for a row whose check
is false. -/
def backfill (modelConfigs : Str → Option Json) (now : Timestamp) (rows : List LegacySummary) :
    Option (List LegacySummary) :=
  let filled := rows.map (fillRow render modelConfigs now)
  if filled.any (fun row => embeddingCheck row = some false) then none else some filled

end Backfill

/-! ## Texts of dimensions -/

/-- Reading the characters of digits, the last of them first in the list, gives their value. -/
theorem digitsValue_digits {digits : List Nat} (small : ∀ digit ∈ digits, digit < 10) :
    digitsValue ((digits.reverse.map (Fin.ofNat 10)).map digitCharacter) =
      (Nat.ofDigits 10 digits : Nat) := by
  induction digits with
  | nil => rfl
  | cons digit digits inductionHypothesis =>
    obtain ⟨first, rest⟩ := List.forall_mem_cons.mp small
    have read := inductionHypothesis rest
    simp only [digitsValue, List.reverse_cons, List.map_append, List.map_cons, List.map_nil,
      List.foldl_append, List.foldl_cons, List.foldl_nil, digitCharacter_val, Fin.val_ofNat,
      Nat.mod_eq_of_lt first] at read ⊢
    rw [read, Nat.ofDigits_cons]
    push_cast
    ring

theorem intText_of_pos {n : Int} (positive : 0 < n) :
    intText n = ((Nat.digits 10 n.natAbs).reverse.map (Fin.ofNat 10)).map digitCharacter := by
  have above : ¬ n < 0 := by omega
  have nonzero : ¬ n.natAbs = 0 := by omega
  simp [intText, numberText, decimalDigits, above, nonzero, fractionText, exponentText]

theorem digitsValue_intText {n : Int} (positive : 0 < n) : digitsValue (intText n) = n := by
  rw [intText_of_pos positive,
    digitsValue_digits (fun _ member => Nat.digits_lt_base (by decide) member),
    Nat.ofDigits_digits]
  omega

/-- A positive dimension is taken for one if it has nine digits at most. -/
theorem isDimension_intText_iff {n : Int} (positive : 0 < n) :
    isDimension (intText n) = true ↔ n ≤ 999999999 := by
  have nonzero : n.natAbs ≠ 0 := by omega
  have above : ¬ n < 0 := by omega
  obtain ⟨first, rest, same, normal⟩ := decimalDigits_normal n.natAbs
  have text : intText n = digitCharacter first :: rest.map digitCharacter := by
    simp [intText, numberText, same, above, fractionText, exponentText]
  have leading : first ≠ 0 := by
    intro zero
    have value := digitsValue_intText positive
    rw [text, normal zero, zero] at value
    exact positive.ne value
  have counted : rest.length + 1 = (Nat.digits 10 n.natAbs).length := by
    have lengths := congrArg List.length same
    simpa [decimalDigits, nonzero] using lengths.symm
  have short : rest.length ≤ 8 ↔ n ≤ 999999999 := by
    have bound := Nat.digits_length_le_iff (b := 10) (k := 9) (by decide) n.natAbs
    omega
  have range : 49 ≤ (digitCharacter first).val ∧ (digitCharacter first).val ≤ 57 := by
    have value := Fin.val_ne_zero_iff.mpr leading
    rw [digitCharacter_val]
    omega
  have digits : (rest.map digitCharacter).all JsonScanner.isDigit = true := by
    simp [isDigit_digitCharacter]
  rw [text, isDimension, digits, List.length_map, decide_eq_true range]
  simpa using short

/-! ## Stripped texts -/

/-- After code points of one kind, trimming those of a narrower kind changes nothing: the
first and the last that are left are of neither. -/
theorem trimmed_trimmed {kind narrow : CodePoint → Bool}
    (narrower : ∀ c, kind c = false → narrow c = false) (text : Str) :
    (((text.dropWhile kind).rdropWhile kind).dropWhile narrow).rdropWhile narrow =
      (text.dropWhile kind).rdropWhile kind := by
  have front : ((text.dropWhile kind).rdropWhile kind).dropWhile narrow =
      (text.dropWhile kind).rdropWhile kind := by
    cases kept : (text.dropWhile kind).rdropWhile kind with
    | nil => rfl
    | cons c rest =>
      obtain ⟨dropped, parts⟩ : c :: rest <+: text.dropWhile kind :=
        kept ▸ List.rdropWhile_prefix kind (text.dropWhile kind)
      have nonempty : text.dropWhile kind ≠ [] := by simp [← parts]
      have visible := List.head_dropWhile_not kind nonempty
      simp only [← parts, List.cons_append, List.head_cons] at visible
      exact List.dropWhile_cons_of_neg (Bool.eq_false_iff.mp (narrower c visible))
  rw [front]
  refine List.rdropWhile_eq_self_iff.mpr (fun nonempty => ?_)
  have visible := List.rdropWhile_last_not kind (text.dropWhile kind) nonempty
  exact Bool.eq_false_iff.mp (narrower _ (Bool.eq_false_iff.mpr visible))

/-- Stripping takes the spaces at both ends. -/
theorem btrim_strip (text : Str) : btrim (strip text) = strip text := by
  refine trimmed_trimmed (fun c visible => ?_) text
  by_contra space
  have same : c = codePoint 32 := Fin.ext (beq_iff_eq.mp (Bool.not_eq_false _ ▸ space))
  rw [same] at visible
  exact absurd visible (by decide)

/-- The settings hold a model as it is read from JSON later. -/
theorem btrim_embeddingModel {lib : StandardLibrary} {env : Environment} {settings : Settings}
    (accepted : Settings.fromEnv lib env = .ok settings) :
    btrim settings.embeddingModel = settings.embeddingModel := by
  simp only [Settings.fromEnv, except_bind_ok_iff, pure, Except.pure, Except.ok.injEq] at accepted
  obtain ⟨databaseUrl, -, rootModel, -, subModel, -, embeddingModel, required, -, -, -, -, -, -,
    -, -, -, -, -, -, -, -, -, -, -, -, -, -, rfl⟩ := accepted
  simp only [Config.required] at required
  split at required
  · cases required
  · rw [← Except.ok.inj required]
    exact btrim_strip _

/-! ## What the update comes to -/

section Rows

variable {render : Json → Str} {modelConfigs : Str → Option Json} {now : Timestamp}
  {row : LegacySummary}

/-- The columns that the migration then declares `NOT NULL`. -/
def Filled (row : LegacySummary) : Prop :=
  ∃ model dim, row.embeddingModel = some model ∧ row.embeddingDim = some dim ∧ 0 < dim

theorem selects_lacksEmbedding_iff :
    Selects (lacksEmbedding row) ↔ row.embeddingModel = none ∨ row.embeddingDim = none := by
  rw [lacksEmbedding, selects_disj_iff, selects_isNull_iff, selects_isNull_iff]

theorem embeddingCheck_violated_iff : embeddingCheck row = some false ↔ ¬ Filled row := by
  obtain ⟨runId, model, dim, updatedAt⟩ := row
  cases model with
  | none => cases dim <;> simp [embeddingCheck, isNotNull, conj, Filled]
  | some model =>
    cases dim with
    | none => simp [embeddingCheck, isNotNull, conj, Filled]
    | some dim =>
      by_cases positive : 0 < dim
      · simp [embeddingCheck, isNotNull, conj, Filled, positive]
      · simp [embeddingCheck, isNotNull, conj, Filled, positive]

/-- The constraint holds of what a migration leaves. -/
theorem backfill_eq_some_iff {rows filled : List LegacySummary} :
    backfill render modelConfigs now rows = some filled ↔
      filled = rows.map (fillRow render modelConfigs now) ∧ ∀ row ∈ filled, Filled row := by
  have violated : (rows.map (fillRow render modelConfigs now)).any
      (fun row => embeddingCheck row = some false) = true ↔
        ¬ ∀ row ∈ rows.map (fillRow render modelConfigs now), Filled row := by
    simp only [List.any_eq_true, decide_eq_true_eq, embeddingCheck_violated_iff, not_forall,
      exists_prop]
  simp only [backfill]
  split
  · next some_ =>
    refine ⟨fun taken => absurd taken (Option.some_ne_none filled).symm, ?_⟩
    rintro ⟨rfl, every⟩
    exact absurd every (violated.mp some_)
  · next none_ =>
    have every := not_not.mp (mt violated.mpr none_)
    rw [Option.some.injEq, eq_comm]
    exact ⟨fun same => ⟨same, same ▸ every⟩, And.left⟩

theorem fillRow_filled (filled : Filled row) : fillRow render modelConfigs now row = row := by
  obtain ⟨model, dim, stored, counted, -⟩ := filled
  have complete : ¬ Selects (lacksEmbedding row) := by
    simp [selects_lacksEmbedding_iff, stored, counted]
  unfold fillRow
  split
  · exact updateRow_skipped complete
  · rfl

/-- Running the migration again changes no summary, whatever has become of the runs. -/
theorem backfill_filled {rows : List LegacySummary} (filled : ∀ row ∈ rows, Filled row) :
    backfill render modelConfigs now rows = some rows := by
  refine backfill_eq_some_iff.mpr ⟨?_, filled⟩
  conv_lhs => rw [← List.map_id rows]
  exact List.map_congr_left (fun row member => (fillRow_filled (filled row member)).symm)

end Rows

end Migration004

/-- The columns of a stored summary that were added, null where they are `lost`. -/
def OutboxRow.without (row : OutboxRow) (lost : Bool × Bool) : LegacySummary :=
  { row.legacy with
    embeddingModel := if lost.1 then none else some row.embeddingModel
    embeddingDim := if lost.2 then none else some row.embeddingDim }

/-- The summary with the configuration that its run gives it back. -/
def OutboxRow.refilled (row : OutboxRow) (now : Timestamp) : LegacySummary :=
  { row.legacy with embeddingModel := some (btrim row.embeddingModel), updatedAt := now }

open Migration004

section Configurations

variable {render : Json → Str}

theorem get?_modelConfigJson (modelConfig : List (Str × ModelValue)) (name : Str) :
    (modelConfigJson modelConfig).get? name = (modelConfig.lookup name).map modelValueJson := by
  rw [modelConfigJson, Json.get?]
  induction modelConfig with
  | nil => rfl
  | cons field rest inductionHypothesis =>
    rw [List.map_cons, List.lookup_cons, List.lookup_cons, inductionHypothesis]
    cases name == field.1 <;> rfl

/-- A configuration comes back with its model trimmed, and a dimension if it is short. -/
theorem configured_of_embeds (numbers : ∀ n, render (.int n) = intText n)
    {request : EnqueueArguments} {configuration : Str × Int}
    (embeds : request.Embeds configuration) (visible : isBlank configuration.1 = false)
    (positive : 0 < configuration.2) :
    configuredModel render (modelConfigJson request.modelConfig) = some (btrim configuration.1) ∧
      configuredDim render (modelConfigJson request.modelConfig) =
        if configuration.2 ≤ 999999999 then some configuration.2 else none := by
  obtain ⟨model, dim⟩ := configuration
  obtain ⟨storedModel, storedDim⟩ := embeds
  constructor
  · have usable : btrim model ≠ [] := usable_of_not_blank visible
    simp [configuredModel, get?_modelConfigJson, storedModel, modelValueJson, jsonText, nullIf,
      selects_equals_iff, usable]
  · simp only [configuredDim, get?_modelConfigJson, storedDim, Option.map_some, modelValueJson,
      Option.bind_some, jsonText, numbers, isDimension_intText_iff positive,
      digitsValue_intText positive]

end Configurations

namespace Deployment

/-- `rlm_runs.model_config`. -/
def modelConfigs (state : Deployment) (id : Str) : Option Json :=
  (state.delivery.queue.db.run? id).map RunRow.modelConfig

section Runs

variable {embedding : Str → Str × Int} {state state' : Deployment}

/-- What the columns of the outbox may hold. -/
def Configured (state : Deployment) : Prop :=
  ∀ id summary, state.delivery.outbox.find? id = some summary →
    isBlank summary.embeddingModel = false ∧ 0 < summary.embeddingDim

theorem Configured.step (configured : Configured state) (sound : Sound embedding state)
    {act : DeliveryAct} (taken : next embedding act state = some state') : Configured state' := by
  obtain ⟨delivery, moved, rfl⟩ := Option.map_eq_some_iff.mp taken
  intro id summary found
  rcases Delivery.summary_origin sound.delivery moved found with ⟨before, earlier, same⟩ |
    ⟨now, locked, run, arguments, ⟨model, dim⟩, rfl, handed, rfl, embedded, rfl⟩
  · rw [same.embeddingModel, same.embeddingDim]
    exact configured id before earlier
  · obtain ⟨row, -, decoded⟩ := sound.traced.claims run handed
    obtain ⟨text, configuredModel, visible⟩ := decoded.wellFormed.embeddingModel
    obtain ⟨number, configuredDim, positive⟩ := decoded.wellFormed.embeddingDim
    obtain ⟨foundModel, foundDim⟩ := embeddingParameters_ok embedded
    obtain rfl : model = text :=
      ModelValue.text.inj (Option.some.inj (foundModel.symm.trans configuredModel))
    obtain rfl : dim = number :=
      ModelValue.number.inj (Option.some.inj (foundDim.symm.trans configuredDim))
    exact ⟨visible, positive⟩

theorem configured_of_reachable (reached : Reachable embedding state) : Configured state := by
  have kept : ∀ before after : Deployment, Sound embedding before ∧ Configured before →
      Step embedding before after → Sound embedding after ∧ Configured after := by
    rintro before after ⟨sound, configured⟩ ⟨act, -, taken⟩
    exact ⟨sound.step taken, configured.step sound taken⟩
  exact (Runs.keeps reached kept ⟨Sound.initial, fun _ _ found => by cases found⟩).2

variable {render : Json → Str} {now : Timestamp}

/-- What the update leaves of a summary that has lost columns, and of one that has not. -/
theorem fillRow_without (reached : Reachable embedding state)
    (numbers : ∀ n, render (.int n) = intText n) {row : OutboxRow}
    (stored : row ∈ state.delivery.outbox.rows) (lost : Bool × Bool) :
    fillRow render state.modelConfigs now (row.without lost) =
      if lost.1 || lost.2 then
        { row.refilled now with
          embeddingDim := if row.embeddingDim ≤ 999999999 then some row.embeddingDim else none }
      else row.legacy := by
  have sound := sound_of_reachable reached
  have found := Table.find?_of_mem stored
  obtain ⟨visible, positive⟩ := configured_of_reachable reached _ row found
  obtain ⟨request, recorded, embeds⟩ := sound.summaries _ row found
  obtain ⟨run, ran, -⟩ := sound.delivery.belongs _ row found
  obtain ⟨request', recorded', enqueued⟩ := sound.requests _ run ran
  obtain rfl : request' = request := Option.some.inj (recorded'.symm.trans recorded)
  obtain ⟨enqueuedAt, runId, same⟩ := enqueued.same
  have config : run.modelConfig = modelConfigJson request'.modelConfig := same.modelConfig
  have source : state.modelConfigs row.runId = some (modelConfigJson request'.modelConfig) := by
    rw [modelConfigs, ran, Option.map_some, config]
  obtain ⟨model, dim⟩ := configured_of_embeds numbers embeds visible positive
  have fill : fillRow render state.modelConfigs now (row.without lost) =
      updateRow lacksEmbedding
        (fillEmbedding render (modelConfigJson request'.modelConfig) now) (row.without lost) := by
    simp only [fillRow, OutboxRow.without, OutboxRow.legacy, source]
  have lacks : Selects (lacksEmbedding (row.without lost)) ↔ (lost.1 || lost.2) = true := by
    rw [selects_lacksEmbedding_iff, Bool.or_eq_true]
    simp [OutboxRow.without]
  rw [fill, updateRow]
  by_cases some_ : (lost.1 || lost.2) = true
  · rw [if_pos (lacks.mpr some_), if_pos some_]
    simp only [fillEmbedding, model, dim]
    rfl
  · rw [if_neg (mt lacks.mp some_), if_neg some_]
    obtain ⟨modelKept, dimKept⟩ : lost.1 = false ∧ lost.2 = false := by simpa using some_
    simp [OutboxRow.without, OutboxRow.legacy, modelKept, dimKept]

/-- The backfill of summaries that have lost columns. -/
theorem backfill_without (reached : Reachable embedding state)
    (numbers : ∀ n, render (.int n) = intText n) (lost : OutboxRow → Bool × Bool) :
    backfill render state.modelConfigs now
        (state.delivery.outbox.rows.map (fun row => row.without (lost row))) =
      if ∃ row ∈ state.delivery.outbox.rows,
        ((lost row).1 || (lost row).2) = true ∧ 999999999 < row.embeddingDim then none
      else some (state.delivery.outbox.rows.map (fun row =>
        if (lost row).1 || (lost row).2 then row.refilled now else row.legacy)) := by
  have filled := fun row member =>
    @fillRow_without embedding state render now reached numbers row member (lost row)
  split
  · next long =>
    obtain ⟨row, member, some_, long⟩ := long
    refine Option.eq_none_iff_forall_ne_some.mpr (fun rows taken => ?_)
    obtain ⟨rfl, every⟩ := backfill_eq_some_iff.mp taken
    obtain ⟨model, dim, -, counted, -⟩ :=
      every _ (List.mem_map_of_mem (List.mem_map_of_mem member))
    rw [filled row member, if_pos some_] at counted
    simp only [Int.not_le.mpr long, ↓reduceIte] at counted
    cases counted
  · next short =>
    refine backfill_eq_some_iff.mpr ⟨?_, fun after member => ?_⟩
    · rw [List.map_map]
      refine List.map_congr_left (fun row member => ?_)
      rw [Function.comp_apply, filled row member]
      split
      · next some_ =>
        have fits : row.embeddingDim ≤ 999999999 :=
          Int.not_lt.mp (fun long => short ⟨row, member, some_, long⟩)
        rw [if_pos fits]
        rfl
      · rfl
    · obtain ⟨row, stored, rfl⟩ := List.mem_map.mp member
      have positive := (configured_of_reachable reached _ row (Table.find?_of_mem stored)).2
      split
      · exact ⟨_, _, rfl, rfl, positive⟩
      · exact ⟨_, _, rfl, rfl, positive⟩

end Runs

/-- What the migration makes of an outbox some of whose summaries have lost columns. It
refuses it if one of these has a dimension of ten digits or more, and otherwise completes
them from the runs and has then nothing left to do. The models come back trimmed, which is
as they were where the settings of the service asked for them. -/
theorem backfill_recovers {embedding : Str → Str × Int} {state : Deployment}
    (reached : Reachable embedding state) {render : Json → Str}
    (numbers : ∀ n, render (.int n) = intText n) (lost : OutboxRow → Bool × Bool)
    (now : Timestamp) :
    let rows := state.delivery.outbox.rows
    let recovered := backfill render state.modelConfigs now
      (rows.map (fun row => row.without (lost row)))
    (recovered = none ↔
      ∃ row ∈ rows, ((lost row).1 || (lost row).2) = true ∧ 999999999 < row.embeddingDim) ∧
    (∀ filled, recovered = some filled →
      filled = rows.map (fun row =>
        if (lost row).1 || (lost row).2 then row.refilled now else row.legacy) ∧
      ∀ modelConfigs later, backfill render modelConfigs later filled = some filled) ∧
    ∀ row ∈ rows, ∀ request lib env settings, state.requests row.runId = some request →
      Settings.fromEnv lib env = .ok settings →
      request.Embeds (settings.embeddingModel, settings.embeddingDim) →
      row.refilled now = { row.legacy with updatedAt := now } := by
  intro rows recovered
  have result : recovered = _ := backfill_without reached numbers lost
  refine ⟨?_, fun filled taken => ⟨?_, fun modelConfigs later => ?_⟩,
    fun row member request lib env settings recorded accepted embeds => ?_⟩
  · rw [result]
    simp [rows]
  · rw [result] at taken
    split at taken
    · cases taken
    · exact (Option.some.inj taken).symm
  · exact backfill_filled (backfill_eq_some_iff.mp taken).2
  · obtain ⟨request', recorded', asked⟩ :=
      (sound_of_reachable reached).summaries _ row (Table.find?_of_mem member)
    obtain rfl : request' = request := Option.some.inj (recorded'.symm.trans recorded)
    have model : row.embeddingModel = settings.embeddingModel :=
      congrArg Prod.fst (embeds_unique asked embeds)
    rw [OutboxRow.refilled, model, btrim_embeddingModel accepted, ← model]
    rfl

/-- A summary that lost both columns while it was being delivered gets them back, however
floats are written. -/
theorem backfill_recovers_mixed : ∃ state : Deployment,
    state.delivery.outbox.rows.map OutboxRow.configuration = [(lit "embed", 8)] ∧
    ∀ shortest, backfill (Json.render shortest) state.modelConfigs (seconds 200)
        (state.delivery.outbox.rows.map (fun row => row.without (true, true))) =
      some (state.delivery.outbox.rows.map (fun row => row.refilled (seconds 200))) := by
  have ran : (replay (next mixedEmbedding) mixedActs initial).map (fun state =>
      state.delivery.outbox.rows.map OutboxRow.configuration) = some [(lit "embed", 8)] := by rfl
  obtain ⟨state, replayed, shown⟩ := Option.map_eq_some_iff.mp ran
  have reached : Reachable mixedEmbedding state :=
    runs_of_replay (fun act _ _ taken => ⟨act, trivial, taken⟩) replayed
  refine ⟨state, shown, fun shortest => ?_⟩
  have numbers : ∀ n, Json.render shortest (.int n) = intText n := fun _ => rfl
  obtain ⟨refused, completed, -⟩ :=
    backfill_recovers reached numbers (fun _ => (true, true)) (seconds 200)
  have accepted : backfill (Json.render shortest) state.modelConfigs (seconds 200)
      (state.delivery.outbox.rows.map (fun row => row.without (true, true))) ≠ none := by
    rw [Ne, refused]
    rintro ⟨row, member, -, long⟩
    have listed : row.configuration ∈ [(lit "embed", 8)] := shown ▸ List.mem_map_of_mem member
    rw [OutboxRow.configuration, List.mem_singleton, Prod.mk.injEq] at listed
    omega
  obtain ⟨filled, taken⟩ := Option.ne_none_iff_exists'.mp accepted
  exact taken.trans (congrArg some (completed filled taken).1)

end Deployment

end RlmApi
