import RlmApi.KeyedTable
import RlmApi.SequencedLog

/-!
# Transactions over a keyed table and its sequenced log

A transaction is a tree of statements. A node is one statement, and its branches
are the continuations for the statement's possible answers. The statements are
those of a relational store: insert a row, lock a row, update one row under a
guard, pick rows in an order while skipping locked ones, append a log entry under
the owner's next sequence number, and change a side table.

`execute` runs a whole transaction as one atomic step. It either commits with an
answer and a store, or raises and leaves no store, which is a rollback. The
meaning of the same trees under statement interleaving is in
`RlmApi.Interleaving`.

Keys, rows, log bodies, the side table, the raised errors and the answers are
parameters.
-/

namespace RlmApi

/-- Why a transaction rolled back: a constraint of the store, or an error that
the code raised itself. -/
inductive Fault (δ : Type) where
  | uniqueViolation
  | foreignKeyViolation
  | raised (error : δ)
deriving DecidableEq, Repr

/-- Everything a transaction reads and writes. -/
structure Store {κ ρ : Type} (key : ρ → κ) (β σ : Type) where
  table : Table key
  log : List (LogEntry κ β)
  side : σ

/-- A tree of statements over keys `κ`, rows `ρ`, log bodies `β` and a side table
`σ`, raising `δ` and answering `α`. -/
inductive Transaction (κ ρ β σ δ α : Type) : Type where
  /-- Commit with an answer. -/
  | done (answer : α)
  /-- Raise, and so roll back. -/
  | raised (error : δ)
  /-- `INSERT` a row; a second row under one key violates the primary key. -/
  | insert (row : ρ) (next : Transaction κ ρ β σ δ α)
  /-- `SELECT … WHERE key = k FOR UPDATE`. -/
  | lock (k : κ) (next : Transaction κ ρ β σ δ α)
  /-- `INSERT INTO log SELECT k, COALESCE(MAX(sequence), 0) + 1, body …`; the owner
  must exist. -/
  | append (k : κ) (body : β) (next : Transaction κ ρ β σ δ α)
  /-- `UPDATE … SET change WHERE key = k AND guard RETURNING *`. -/
  | update (k : κ) (guard : ρ → Bool) (change : ρ → ρ)
      (next : Option ρ → Transaction κ ρ β σ δ α)
  /-- `SELECT … WHERE wanted ORDER BY before LIMIT limit FOR UPDATE SKIP LOCKED`. -/
  | pick (wanted : ρ → Bool) (before : ρ → ρ → Bool) (limit : Nat)
      (next : List ρ → Transaction κ ρ β σ δ α)
  /-- A statement on the side table. -/
  | adjust (change : σ → σ) (next : Transaction κ ρ β σ δ α)

namespace Transaction

variable {κ ρ β σ δ α γ : Type}

/-- Rename the answer. -/
def map (f : α → γ) : Transaction κ ρ β σ δ α → Transaction κ ρ β σ δ γ
  | .done answer => .done (f answer)
  | .raised error => .raised error
  | .insert row next => .insert row (next.map f)
  | .lock k next => .lock k (next.map f)
  | .append k body next => .append k body (next.map f)
  | .update k guard change next => .update k guard change (fun found => (next found).map f)
  | .pick wanted before limit next => .pick wanted before limit (fun rows => (next rows).map f)
  | .adjust change next => .adjust change (next.map f)

variable {key : ρ → κ} [DecidableEq κ]

/-- Run a whole transaction as one atomic step. The rows under `locked` keys are
the ones other transactions hold at that moment; only a pick consults them. -/
def execute (locked : κ → Bool) :
    Transaction κ ρ β σ δ α → Store key β σ → Except (Fault δ) (α × Store key β σ)
  | .done answer, store => .ok (answer, store)
  | .raised error, _ => .error (.raised error)
  | .insert row next, store =>
      if (store.table.find? (key row)).isSome then .error .uniqueViolation
      else next.execute locked { store with table := store.table.put row }
  | .lock _ next, store => next.execute locked store
  | .append k body next, store =>
      if (store.table.find? k).isSome then
        next.execute locked { store with log := LogEntry.extend store.log k body }
      else .error .foreignKeyViolation
  | .update k guard change next, store =>
      match (store.table.find? k).filter guard with
      | some row =>
          (next (some (change row))).execute locked
            { store with table := store.table.put (change row) }
      | none => (next none).execute locked store
  | .pick wanted before limit next, store =>
      (next (store.table.select (fun row => wanted row && !locked (key row)) before limit)).execute
        locked store
  | .adjust change next, store =>
      next.execute locked { store with side := change store.side }

/-- Renaming the answer renames it in the outcome and changes nothing else. -/
theorem execute_map (f : α → γ) (locked : κ → Bool) (program : Transaction κ ρ β σ δ α)
    (store : Store key β σ) :
    (program.map f).execute locked store =
      (program.execute locked store).map (fun outcome => (f outcome.1, outcome.2)) := by
  induction program generalizing store with
  | done answer => rfl
  | raised error => rfl
  | insert row next ih =>
    simp only [map, execute]
    split
    · rfl
    · exact ih _
  | lock k next ih => exact ih _
  | append k body next ih =>
    simp only [map, execute]
    split
    · exact ih _
    · rfl
  | update k guard change next ih =>
    simp only [map, execute]
    split
    · exact ih _ _
    · exact ih _ _
  | pick wanted before limit next ih => exact ih _ _
  | adjust change next ih => exact ih _

end Transaction

end RlmApi
