import RlmApi.ClaimDecoding
import RlmApi.SqlUpdates

/-!
# Migration of legacy runs

Migration 004 turns runs that carried their context inside `corpus_ref` into runs of the
durable queue. Its three updates of `rlm_runs` recover a context, fail the runs without
one that are not over, and fill the context of those that are, so that the column can be
declared `NOT NULL`. Each update runs in a transaction of its own, with its own `now()`.

A row below has the columns that these updates read or write, right after the columns
were added. The text that PostgreSQL gives a number, an array or an object of
`corpus_ref` is the parameter `render`; the results hold whatever it is.
-/

namespace RlmApi

open Sql

/-- A row of `rlm_runs` before its context is declared `NOT NULL`. -/
structure LegacyRun where
  id : Str
  status : RunStatus
  context : Option Str
  corpusRef : Option Json
  error : Option Str
  completedAt : Option Timestamp
  updatedAt : Timestamp
  workerId : Option Str
  workerHeartbeatAt : Option Timestamp

/-- Queued or running. -/
def LegacyRun.Pending (row : LegacyRun) : Prop := row.status = .queued ∨ row.status = .running

/-- Succeeded or failed. -/
def LegacyRun.Terminal (row : LegacyRun) : Prop :=
  row.status = .succeeded ∨ row.status = .failed

theorem LegacyRun.terminal_iff (row : LegacyRun) : row.Terminal ↔ ¬ row.Pending := by
  unfold Terminal Pending
  cases row.status <;> simp

/-- The only code point that `btrim` strips. -/
def sqlSpace (c : CodePoint) : Bool := c.val == 32

/-- `btrim(text)`. -/
def btrim (text : Str) : Str := (text.dropWhile sqlSpace).rdropWhile sqlSpace

/-- The text of a JSON value under `->>`, which is `NULL` for a JSON `null`. -/
def jsonText (render : Json → Str) : Json → Option Str
  | .null => none
  | .str value => some value
  | .bool value => some (if value then lit "true" else lit "false")
  | value => some (render value)

/-- `corpus_ref->>'context'`, which is `NULL` where `corpus_ref` is no object. -/
def LegacyRun.inlineContext (render : Json → Str) (row : LegacyRun) : Option Str :=
  row.corpusRef.bind fun corpusRef =>
    (corpusRef.get? (lit "context")).bind (jsonText render)

namespace Migration004

/-- `context IS NULL OR btrim(context) = ''`. -/
def missingContext (row : LegacyRun) : Truth :=
  disj (isNull row.context) (equals (row.context.map btrim) (some []))

/-- The `WHERE` of the first update. -/
def recoverable (render : Json → Str) (row : LegacyRun) : Truth :=
  conj (missingContext row) (isNotNull (nullIf ((row.inlineContext render).map btrim) []))

/-- Recover only genuine inline legacy context. -/
def recoverContext (render : Json → Str) (now : Timestamp) (row : LegacyRun) : LegacyRun :=
  { row with context := row.inlineContext render, updatedAt := now }

/-- The `WHERE` of the second update. -/
def unrecoverable (row : LegacyRun) : Truth :=
  conj (isIn (some row.status) [.queued, .running]) (missingContext row)

/-- Never make an unrecoverable nonterminal run claimable with an empty corpus. -/
def failMissing (now : Timestamp) (row : LegacyRun) : LegacyRun :=
  { row with
    status := .failed
    error := some (lit "migration_missing_context")
    completedAt := some (row.completedAt.getD now)
    updatedAt := now
    workerId := none
    workerHeartbeatAt := none }

/-- The `WHERE` of the third update. -/
def historical (row : LegacyRun) : Truth :=
  conj (isIn (some row.status) [.succeeded, .failed]) (isNull row.context)

/-- Empty context is retained only as historical data on terminal legacy rows. -/
def emptyContext (row : LegacyRun) : LegacyRun := { row with context := some [] }

/-- The three updates, the first two at their own times. -/
def migrate (render : Json → Str) (recovered failed : Timestamp) (rows : List LegacyRun) :
    List LegacyRun :=
  update historical emptyContext
    (update unrecoverable (failMissing failed)
      (update (recoverable render) (recoverContext render recovered) rows))

/-- What the three updates make of one row. -/
def migrateRow (render : Json → Str) (recovered failed : Timestamp) (row : LegacyRun) :
    LegacyRun :=
  updateRow historical emptyContext
    (updateRow unrecoverable (failMissing failed)
      (updateRow (recoverable render) (recoverContext render recovered) row))

theorem migrate_eq_map (render : Json → Str) (recovered failed : Timestamp)
    (rows : List LegacyRun) :
    migrate render recovered failed rows = rows.map (migrateRow render recovered failed) := by
  simp only [migrate, update, List.map_map]
  rfl

/-! ## What one row becomes -/

/-- A text that `btrim` does not empty. -/
def Usable (text : Str) : Prop := btrim text ≠ []

/-- The context is `NULL` or `btrim` empties it. -/
def Missing (context : Option Str) : Prop := ∀ text, context = some text → ¬ Usable text

section Rows

variable {render : Json → Str} {recovered failed : Timestamp} {row : LegacyRun}

theorem selects_missingContext_iff : Selects (missingContext row) ↔ Missing row.context := by
  rw [missingContext, selects_disj_iff, selects_isNull_iff, selects_equals_iff]
  cases row.context <;> simp [Missing, Usable]

theorem selects_recoverable_iff : Selects (recoverable render row) ↔
    Missing row.context ∧ ∃ text, row.inlineContext render = some text ∧ Usable text := by
  rw [recoverable, selects_conj_iff, selects_missingContext_iff, selects_isNotNull_iff]
  simp [nullIf_eq_some_iff, Usable]

theorem selects_unrecoverable_iff : Selects (unrecoverable row) ↔
    row.Pending ∧ Missing row.context := by
  rw [unrecoverable, selects_conj_iff, selects_missingContext_iff, selects_isIn_iff]
  simp [LegacyRun.Pending]

theorem selects_historical_iff : Selects (historical row) ↔
    row.Terminal ∧ row.context = none := by
  rw [historical, selects_conj_iff, selects_isNull_iff, selects_isIn_iff]
  simp [LegacyRun.Terminal]

/-- Everything that the three updates can make of a row. -/
inductive Migrated (render : Json → Str) (recovered failed : Timestamp) (row : LegacyRun) :
    LegacyRun → Prop where
  | kept {text : Str} (stored : row.context = some text) (usable : Usable text) :
      Migrated render recovered failed row row
  | recovered {text : Str} (missing : Missing row.context)
      (inline : row.inlineContext render = some text) (usable : Usable text) :
      Migrated render recovered failed row
        { row with context := some text, updatedAt := recovered }
  | failed (missing : Missing row.context) (lost : Missing (row.inlineContext render))
      (pending : row.Pending) :
      Migrated render recovered failed row
        { failMissing failed row with context := some (row.context.getD []) }
  | historical (missing : Missing row.context) (lost : Missing (row.inlineContext render))
      (terminal : row.Terminal) :
      Migrated render recovered failed row { row with context := some (row.context.getD []) }

theorem not_missing {text : Str} (usable : Usable text) : ¬ Missing (some text) :=
  fun missing => missing text rfl usable

theorem missing_iff (context : Option Str) :
    Missing context ↔ ¬ ∃ text, context = some text ∧ Usable text := by
  simp [Missing]

/-- The third update, on a row of which the condition on the context is known. -/
theorem update_historical (terminal : row.Terminal) :
    updateRow historical emptyContext row =
      { row with context := some (row.context.getD []) } := by
  cases stored : row.context with
  | none => exact updateRow_selected (selects_historical_iff.mpr ⟨terminal, stored⟩)
  | some text =>
    have skipped : ¬ Selects (historical row) := by
      rw [selects_historical_iff, stored]
      rintro ⟨-, ⟨⟩⟩
    rw [updateRow_skipped skipped]
    obtain ⟨id, status, context, corpusRef, error, completedAt, updatedAt, workerId, beat⟩ := row
    cases stored
    rfl

/-- No update selects the row. -/
structure Settled (render : Json → Str) (row : LegacyRun) : Prop where
  recovered : ¬ Selects (recoverable render row)
  claimable : ¬ Selects (unrecoverable row)
  present : ¬ Selects (historical row)

/-- A usable context is left alone. -/
theorem settled_of_usable {text : Str} (stored : row.context = some text) (usable : Usable text) :
    Settled render row := by
  refine ⟨?_, ?_, ?_⟩
  · rw [selects_recoverable_iff, stored]
    exact fun selected => not_missing usable selected.1
  · rw [selects_unrecoverable_iff, stored]
    exact fun selected => not_missing usable selected.2
  · rw [selects_historical_iff, stored]
    rintro ⟨-, ⟨⟩⟩

/-- So is a finished run with a context where there is nothing to recover. -/
theorem settled_of_terminal {text : Str} (stored : row.context = some text)
    (lost : Missing (row.inlineContext render)) (terminal : row.Terminal) : Settled render row := by
  refine ⟨?_, ?_, ?_⟩
  · rw [selects_recoverable_iff]
    exact fun selected => (missing_iff _).mp lost selected.2
  · rw [selects_unrecoverable_iff]
    exact fun selected => row.terminal_iff.mp terminal selected.1
  · rw [selects_historical_iff, stored]
    rintro ⟨-, ⟨⟩⟩

theorem migrateRow_cases :
    Migrated render recovered failed row (migrateRow render recovered failed row) := by
  unfold migrateRow
  by_cases missing : Missing row.context
  · by_cases inline : ∃ text, row.inlineContext render = some text ∧ Usable text
    · have selected := selects_recoverable_iff.mpr ⟨missing, inline⟩
      obtain ⟨text, found, usable⟩ := inline
      have settled : Settled render (recoverContext render recovered row) :=
        settled_of_usable found usable
      rw [updateRow_selected selected, updateRow_skipped settled.claimable,
        updateRow_skipped settled.present, recoverContext, found]
      exact .recovered missing found usable
    · have skipped : ¬ Selects (recoverable render row) := by
        rw [selects_recoverable_iff]
        exact fun selected => inline selected.2
      have lost : Missing (row.inlineContext render) := (missing_iff _).mpr inline
      rw [updateRow_skipped skipped]
      by_cases pending : row.Pending
      · rw [updateRow_selected (selects_unrecoverable_iff.mpr ⟨pending, missing⟩),
          update_historical (Or.inr rfl)]
        exact .failed missing lost pending
      · have ended : ¬ Selects (unrecoverable row) := by
          rw [selects_unrecoverable_iff]
          exact fun selected => pending selected.1
        have terminal : row.Terminal := row.terminal_iff.mpr pending
        rw [updateRow_skipped ended, update_historical terminal]
        exact .historical missing lost terminal
  · rw [missing_iff, not_not] at missing
    obtain ⟨text, stored, usable⟩ := missing
    have settled : Settled render row := settled_of_usable stored usable
    rw [updateRow_skipped settled.recovered, updateRow_skipped settled.claimable,
      updateRow_skipped settled.present]
    exact .kept stored usable

end Rows

/-! ## The whole table -/

/-- What the updates keep of a row, and what they make sure of. -/
structure Conserved (before after : LegacyRun) : Prop where
  terminal : before.Terminal →
    after.status = before.status ∧ after.error = before.error ∧
      after.completedAt = before.completedAt
  context : ∀ text, before.context = some text → Usable text → after.context = some text
  notNull : ∃ text, after.context = some text
  pending : after.Pending → ∃ text, after.context = some text ∧ Usable text

section Table

variable {render : Json → Str} {recovered failed : Timestamp} {row after : LegacyRun}

theorem Migrated.settled (migrated : Migrated render recovered failed row after) :
    Settled render after := by
  cases migrated with
  | kept stored usable => exact settled_of_usable stored usable
  | recovered missing inline usable => exact settled_of_usable rfl usable
  | failed missing lost pending => exact settled_of_terminal rfl lost (Or.inr rfl)
  | historical missing lost terminal => exact settled_of_terminal rfl lost terminal

theorem Migrated.conserved (migrated : Migrated render recovered failed row after) :
    Conserved row after := by
  cases migrated with
  | kept stored usable =>
    exact ⟨fun _ => ⟨rfl, rfl, rfl⟩, fun text same _ => same, ⟨_, stored⟩,
      fun _ => ⟨_, stored, usable⟩⟩
  | recovered missing inline usable =>
    exact ⟨fun _ => ⟨rfl, rfl, rfl⟩, fun text same fits => absurd fits (missing text same),
      ⟨_, rfl⟩, fun _ => ⟨_, rfl, usable⟩⟩
  | failed missing lost pending =>
    refine ⟨fun terminal => absurd pending (row.terminal_iff.mp terminal),
      fun text same fits => absurd fits (missing text same), ⟨_, rfl⟩, ?_⟩
    rintro (⟨⟨⟩⟩ | ⟨⟨⟩⟩)
  | historical missing lost terminal =>
    exact ⟨fun _ => ⟨rfl, rfl, rfl⟩, fun text same fits => absurd fits (missing text same),
      ⟨_, rfl⟩, fun pending => absurd pending (row.terminal_iff.mp terminal)⟩

/-- Updates that select no row of a table leave the table as it is. -/
theorem migrate_settled {rows : List LegacyRun} (settled : ∀ row ∈ rows, Settled render row)
    (recovered failed : Timestamp) : migrate render recovered failed rows = rows := by
  rw [migrate, update_eq_self fun row member => (settled row member).recovered,
    update_eq_self fun row member => (settled row member).claimable,
    update_eq_self fun row member => (settled row member).present]

end Table

/-- The data steps of migration 004 can be repeated at any later time without a change,
and they keep what the table holds about finished runs and usable contexts. -/
theorem migrate_idempotent_conservative (render : Json → Str)
    (recovered failed recoveredAgain failedAgain : Timestamp) (rows : List LegacyRun) :
    migrate render recoveredAgain failedAgain (migrate render recovered failed rows) =
        migrate render recovered failed rows ∧
      List.Forall₂ Conserved rows (migrate render recovered failed rows) := by
  constructor
  · apply migrate_settled
    intro after member
    rw [migrate_eq_map] at member
    obtain ⟨row, -, rfl⟩ := List.mem_map.mp member
    exact migrateRow_cases.settled
  · rw [migrate_eq_map, List.forall₂_map_right_iff, List.forall₂_same]
    intro row _
    exact migrateRow_cases.conserved

/-! ## The decoder's view of a migrated run -/

/-- The context of a row as `decode_claimed_run` receives it. -/
def contextColumn (row : LegacyRun) : Column :=
  match row.context with
  | some text => .text text
  | none => .other (lit "None")

/-- The required-text check of `decode_claimed_run` accepts the context. -/
def Accepted (row : LegacyRun) : Prop :=
  ∃ text, requiredText (contextColumn row) "context" = .ok text

/-- A text that the decoder accepts, as the context of the run or, where it accepts none
there, as its inline context. -/
def Brings (render : Json → Str) (row : LegacyRun) (text : Str) : Prop :=
  isBlank text = false ∧
    (row.context = some text ∨ ¬ Accepted row ∧ row.inlineContext render = some text)

/-- Afterwards a run is not over exactly if the decoder accepts its context, and it is not
over, with the text as its context, if it brought one that the decoder accepts. -/
structure Agrees (render : Json → Str) (before after : LegacyRun) : Prop where
  claimable : after.Pending ↔ Accepted after
  recovered : ∀ text, Brings render before text → after.Pending ∧ after.context = some text

/-- The text that a legacy run brings: its context, or else its inline context. -/
def legacyText (render : Json → Str) (row : LegacyRun) : Option Str :=
  if btrim (row.context.getD []) = [] then row.inlineContext render else row.context

/-- Where the run brings nothing but whitespace, it brings nothing but spaces. -/
def BlankIsSpaces (render : Json → Str) (row : LegacyRun) : Prop :=
  ∀ text, legacyText render row = some text → isBlank text = true →
    ∀ c ∈ text, sqlSpace c = true

theorem accepted_iff {row : LegacyRun} {text : Str} (stored : row.context = some text) :
    Accepted row ↔ isBlank text = false := by
  unfold Accepted contextColumn
  rw [stored]
  cases blank : isBlank text <;> simp [requiredText, blank]

theorem usable_iff (text : Str) : Usable text ↔ ¬ ∀ c ∈ text, sqlSpace c = true :=
  not_congr (trimmed_eq_nil_iff sqlSpace text)

/-- A text with a visible code point is usable. -/
theorem usable_of_not_blank {text : Str} (visible : isBlank text = false) : Usable text := by
  obtain ⟨c, member, shown⟩ := (isBlank_eq_false_iff text).mp visible
  rw [usable_iff]
  intro spaces
  have space : c = codePoint 32 := Fin.ext (beq_iff_eq.mp (spaces c member))
  rw [space] at shown
  exact absurd shown (by decide)

theorem legacyText_of_usable (render : Json → Str) {row : LegacyRun} {text : Str}
    (stored : row.context = some text) (usable : Usable text) :
    legacyText render row = some text := by
  rw [legacyText, stored]
  exact if_neg usable

theorem legacyText_of_missing (render : Json → Str) {row : LegacyRun}
    (missing : Missing row.context) : legacyText render row = row.inlineContext render := by
  refine if_pos ?_
  cases stored : row.context with
  | none => rfl
  | some text => exact not_not.mp (missing text stored)

/-- What the decoder can take from a run is what the migration takes. -/
theorem legacyText_of_brings (render : Json → Str) {row : LegacyRun} {text : Str}
    (spaces : BlankIsSpaces render row) (brings : Brings render row text) :
    legacyText render row = some text := by
  obtain ⟨visible, own | ⟨rejected, inline⟩⟩ := brings
  · exact legacyText_of_usable render own (usable_of_not_blank visible)
  · by_cases missing : Missing row.context
    · exact (legacyText_of_missing render missing).trans inline
    · rw [missing_iff, not_not] at missing
      obtain ⟨own, stored, usable⟩ := missing
      have blank : isBlank own = true :=
        Bool.not_eq_false _ ▸ mt (accepted_iff stored).mpr rejected
      exact absurd (spaces own (legacyText_of_usable render stored usable) blank)
        ((usable_iff own).mp usable)

/-- A pending run that brings a usable text stays pending with that text, and one that
brings none is failed with a context that `btrim` empties. -/
theorem Migrated.pending {render : Json → Str} {recovered failed : Timestamp}
    {row after : LegacyRun} (migrated : Migrated render recovered failed row after)
    (pending : row.Pending) :
    (∃ text, legacyText render row = some text ∧ Usable text ∧ after.Pending ∧
      after.context = some text) ∨
    (Missing (legacyText render row) ∧ ¬ after.Pending ∧
      ∃ text, after.context = some text ∧ ¬ Usable text) := by
  cases migrated with
  | kept stored usable =>
    exact Or.inl ⟨_, legacyText_of_usable render stored usable, usable, pending, stored⟩
  | recovered missing inline usable =>
    exact Or.inl ⟨_, (legacyText_of_missing render missing).trans inline, usable, pending, rfl⟩
  | failed missing lost _ =>
    refine Or.inr ⟨?_, ?_, _, rfl, ?_⟩
    · rw [legacyText_of_missing render missing]
      exact lost
    · rintro (⟨⟨⟩⟩ | ⟨⟨⟩⟩)
    · cases stored : row.context with
      | none => exact fun usable => usable rfl
      | some text => exact missing text stored
  | historical missing lost terminal => exact absurd pending (row.terminal_iff.mp terminal)

/-- Migration and decoder agree about a pending legacy run exactly where the run does not
bring a text of whitespace with more than spaces in it: `btrim` strips spaces only, and
`str.strip` every whitespace. In particular no run with a text that the decoder accepts
is failed. -/
theorem agrees_iff_blankIsSpaces (render : Json → Str) (recovered failed : Timestamp)
    (rows : List LegacyRun) :
    List.Forall₂ (fun before after =>
      before.Pending → (Agrees render before after ↔ BlankIsSpaces render before))
      rows (migrate render recovered failed rows) := by
  rw [migrate_eq_map, List.forall₂_map_right_iff, List.forall₂_same]
  intro row _ pending
  have migrated : Migrated render recovered failed row (migrateRow render recovered failed row) :=
    migrateRow_cases
  rcases migrated.pending pending with
    ⟨text, brought, usable, stays, stored⟩ | ⟨missing, fails, text, stored, unusable⟩
  · constructor
    · intro agrees other same blank
      obtain rfl : text = other := Option.some.inj (brought.symm.trans same)
      have visible := (accepted_iff stored).mp (agrees.claimable.mp stays)
      rw [visible] at blank
      cases blank
    · intro spaces
      have visible : isBlank text = false := by
        by_contra blank
        exact (usable_iff text).mp usable (spaces text brought (Bool.not_eq_false _ ▸ blank))
      refine ⟨iff_of_true stays ((accepted_iff stored).mpr visible), fun other brings => ?_⟩
      have same := legacyText_of_brings render spaces brings
      exact ⟨stays, stored.trans (brought.symm.trans same)⟩
  · have rejected : ¬ Accepted (migrateRow render recovered failed row) := by
      rw [accepted_iff stored]
      exact fun visible => unusable (usable_of_not_blank visible)
    have allSpaces : BlankIsSpaces render row := by
      intro other same _
      exact not_not.mp (mt (usable_iff other).mpr (missing other same))
    refine iff_of_true ⟨iff_of_false fails rejected, fun other brings => ?_⟩ allSpaces
    have same := legacyText_of_brings render allSpaces brings
    exact absurd (usable_of_not_blank brings.1) (missing other same)

/-- A queued legacy run whose context is a line feed. -/
def lineFeedRun : LegacyRun where
  id := lit "r"
  status := .queued
  context := some [codePoint 10]
  corpusRef := none
  error := none
  completedAt := none
  updatedAt := 0
  workerId := none
  workerHeartbeatAt := none

/-- It is left claimable, and no claim of it can be decoded. -/
theorem lineFeed_disagrees :
    lineFeedRun.Pending ∧ ∃ after, migrate (fun _ => []) 1 2 [lineFeedRun] = [after] ∧
      after.Pending ∧ ¬ Accepted after ∧ ¬ Agrees (fun _ => []) lineFeedRun after := by
  have rejected : ¬ Accepted lineFeedRun := by
    rw [@accepted_iff lineFeedRun [codePoint 10] rfl]
    decide
  refine ⟨Or.inl rfl, lineFeedRun, by rfl, Or.inl rfl, rejected, ?_⟩
  intro agrees
  exact rejected (agrees.claimable.mp (Or.inl rfl))

end Migration004

end RlmApi
