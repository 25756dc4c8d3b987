import Mathlib.Logic.Function.Basic
import RlmApi.RowTransactions

/-!
# Footprints of transactions

A transaction touches a few keys and leaves the rest alone. Its footprint records,
for every key it holds, the row and log entries found there when the lock was
taken and the row and entries it has made of them since, together with its
combined change of the side table.

`Ensures` computes, by recursion on a transaction, what its footprints satisfy
when it commits. It assumes nothing about the store beyond the keys a caller
promises to exist, and it demands that log entries are appended under a lock the
transaction already holds. The same predicate is then sound for two semantics:
for atomic execution, proved here as `execute_ensures`, and for interleaved
statements, proved in `RlmApi.Interleaving`. A client states once what each of its
transactions does to each key and has it for both.
-/

namespace RlmApi

variable {κ ρ β σ δ α : Type}

/-- A row together with the log entries of its key. -/
structure Dossier (κ ρ β : Type) where
  row : ρ
  entries : List (LogEntry κ β)

/-- Append one entry under the next sequence number. -/
def Dossier.record (dossier : Dossier κ ρ β) (k : κ) (body : β) : Dossier κ ρ β :=
  { dossier with
    entries := dossier.entries ++ [⟨k, LogEntry.nextSequence dossier.entries, body⟩] }

/-- Replace the row. -/
def Dossier.rewrite (dossier : Dossier κ ρ β) (row : ρ) : Dossier κ ρ β := { dossier with row }

@[simp] theorem Dossier.record_row (dossier : Dossier κ ρ β) (k : κ) (body : β) :
    (dossier.record k body).row = dossier.row := rfl

@[simp] theorem Dossier.rewrite_row (dossier : Dossier κ ρ β) (row : ρ) :
    (dossier.rewrite row).row = row := rfl

@[simp] theorem Dossier.record_entries (dossier : Dossier κ ρ β) (k : κ) (body : β) :
    (dossier.record k body).entries =
      dossier.entries ++ [⟨k, LogEntry.nextSequence dossier.entries, body⟩] := rfl

/-- One held key: what was there when the lock was taken, and what is there now. -/
structure Touched (κ ρ β : Type) where
  before : Option (Dossier κ ρ β)
  after : Dossier κ ρ β

/-- A key that is locked and not yet changed. -/
def Touched.locked (dossier : Dossier κ ρ β) : Touched κ ρ β := ⟨some dossier, dossier⟩

/-- Change what is there now. -/
def Touched.revise (touched : Touched κ ρ β) (change : Dossier κ ρ β → Dossier κ ρ β) :
    Touched κ ρ β :=
  { touched with after := change touched.after }

@[simp] theorem Touched.locked_after (dossier : Dossier κ ρ β) :
    (locked dossier).after = dossier := rfl

/-- Everything a transaction has done so far. -/
structure Footprint (κ ρ β σ : Type) where
  touched : κ → Option (Touched κ ρ β)
  side : σ → σ

namespace Footprint

/-- The footprint of a transaction that has done nothing. -/
def untouched : Footprint κ ρ β σ := ⟨fun _ => none, id⟩

@[simp] theorem untouched_touched (k : κ) :
    (untouched : Footprint κ ρ β σ).touched k = none := rfl

/-- Compose one more change of the side table. -/
def adjust (footprint : Footprint κ ρ β σ) (change : σ → σ) : Footprint κ ρ β σ :=
  { footprint with side := change ∘ footprint.side }

@[simp] theorem adjust_touched (footprint : Footprint κ ρ β σ) (change : σ → σ) :
    (footprint.adjust change).touched = footprint.touched := rfl

variable [DecidableEq κ]

/-- Record what one key has become. -/
def set (footprint : Footprint κ ρ β σ) (k : κ) (touched : Touched κ ρ β) :
    Footprint κ ρ β σ :=
  { footprint with touched := Function.update footprint.touched k (some touched) }

/-- Hold the keys of the given rows as well; the entries of each are `entriesOf`. -/
def lockRows (footprint : Footprint κ ρ β σ) (key : ρ → κ) (rows : List ρ)
    (entriesOf : κ → List (LogEntry κ β)) : Footprint κ ρ β σ :=
  { footprint with
    touched := fun k => (footprint.touched k).or
      ((rows.find? (fun row => decide (key row = k))).map
        (fun row => Touched.locked ⟨row, entriesOf k⟩)) }

@[simp] theorem touched_set_self (footprint : Footprint κ ρ β σ) (k : κ)
    (touched : Touched κ ρ β) : (footprint.set k touched).touched k = some touched := by
  simp [set]

theorem touched_set_ne (footprint : Footprint κ ρ β σ) {k other : κ} (touched : Touched κ ρ β)
    (distinct : other ≠ k) : (footprint.set k touched).touched other = footprint.touched other := by
  simp [set, distinct]

theorem touched_set (footprint : Footprint κ ρ β σ) (k other : κ) (touched : Touched κ ρ β) :
    (footprint.set k touched).touched other =
      if other = k then some touched else footprint.touched other := by
  simp [set, Function.update_apply]

@[simp] theorem set_set (footprint : Footprint κ ρ β σ) (k : κ) (first second : Touched κ ρ β) :
    (footprint.set k first).set k second = footprint.set k second := by
  simp [set]

/-- A key held after a pick was held before or is the key of a picked row. -/
theorem touched_lockRows {footprint : Footprint κ ρ β σ} {key : ρ → κ} {rows : List ρ}
    {entriesOf : κ → List (LogEntry κ β)} {k : κ} {touched : Touched κ ρ β}
    (held : (footprint.lockRows key rows entriesOf).touched k = some touched) :
    footprint.touched k = some touched ∨ footprint.touched k = none ∧
      ∃ row ∈ rows, key row = k ∧ touched = Touched.locked ⟨row, entriesOf k⟩ := by
  simp only [lockRows, Option.or_eq_some_iff] at held
  refine held.imp_right (fun ⟨free, locked⟩ => ⟨free, ?_⟩)
  obtain ⟨row, picked, rfl⟩ := Option.map_eq_some_iff.mp locked
  exact ⟨row, List.mem_of_find?_eq_some picked, by simpa using List.find?_some picked, rfl⟩

/-- A free picked row is locked as it was. -/
theorem touched_lockRows_of_mem {footprint : Footprint κ ρ β σ} {key : ρ → κ} {rows : List ρ}
    (entriesOf : κ → List (LogEntry κ β)) (distinct : (rows.map key).Nodup) {row : ρ}
    (member : row ∈ rows) (free : footprint.touched (key row) = none) :
    (footprint.lockRows key rows entriesOf).touched (key row) =
      some (Touched.locked ⟨row, entriesOf (key row)⟩) := by
  have picked : rows.find? (fun other => decide (key other = key row)) = some row :=
    Table.find?_of_mem (show row ∈ (⟨rows, distinct⟩ : Table key).rows from member)
  simp [lockRows, free, picked]

@[simp] theorem lockRows_nil (footprint : Footprint κ ρ β σ) (key : ρ → κ)
    (entriesOf : κ → List (LogEntry κ β)) : footprint.lockRows key [] entriesOf = footprint := by
  simp [lockRows]

/-- Picking one free row locks its key. -/
theorem lockRows_singleton {footprint : Footprint κ ρ β σ} {key : ρ → κ} {row : ρ}
    (entriesOf : κ → List (LogEntry κ β)) (free : footprint.touched (key row) = none) :
    footprint.lockRows key [row] entriesOf =
      footprint.set (key row) (Touched.locked ⟨row, entriesOf (key row)⟩) := by
  simp only [lockRows, set, Footprint.mk.injEq, and_true]
  funext k
  by_cases same : key row = k
  · subst same
    simp [free]
  · simp [same, Ne.symm same]

theorem set_eq_self {footprint : Footprint κ ρ β σ} {k : κ} {touched : Touched κ ρ β}
    (held : footprint.touched k = some touched) : footprint.set k touched = footprint := by
  simp [set, ← held]

end Footprint

namespace Transaction
variable [DecidableEq κ]

/-- Every footprint with which the transaction commits satisfies `post`.

`known` holds of the keys whose rows exist before the transaction begins. Rows
found under a lock are arbitrary, up to the filters the statement itself applies. -/
def Ensures (key : ρ → κ) (known : κ → Prop) (post : α → Footprint κ ρ β σ → Prop) :
    Transaction κ ρ β σ δ α → Footprint κ ρ β σ → Prop
  | .done answer, footprint => post answer footprint
  | .raised _, _ => True
  | .insert row next, footprint =>
      footprint.touched (key row) = none →
        next.Ensures key known post (footprint.set (key row) ⟨none, ⟨row, []⟩⟩)
  | .lock k next, footprint =>
      match footprint.touched k with
      | some _ => next.Ensures key known post footprint
      | none =>
        (∀ dossier : Dossier κ ρ β, key dossier.row = k →
          next.Ensures key known post (footprint.set k (Touched.locked dossier))) ∧
        (¬ known k → next.Ensures key known post footprint)
  | .append k body next, footprint =>
      match footprint.touched k with
      | some touched =>
        next.Ensures key known post (footprint.set k (touched.revise (·.record k body)))
      | none => False
  | .update k guard change next, footprint =>
      (∀ row, key (change row) = key row) ∧
      match footprint.touched k with
      | some touched =>
        if guard touched.after.row then
          (next (some (change touched.after.row))).Ensures key known post
            (footprint.set k (touched.revise (fun dossier => dossier.rewrite (change dossier.row))))
        else (next none).Ensures key known post footprint
      | none =>
        (∀ dossier : Dossier κ ρ β, key dossier.row = k → guard dossier.row = true →
          (next (some (change dossier.row))).Ensures key known post
            (footprint.set k ⟨some dossier, dossier.rewrite (change dossier.row)⟩)) ∧
        (next none).Ensures key known post footprint
  | .pick wanted _ limit next, footprint =>
      ∀ (rows : List ρ) (entriesOf : κ → List (LogEntry κ β)),
        (rows.map key).Nodup → rows.length ≤ limit → (∀ row ∈ rows, wanted row = true) →
        (∀ row ∈ rows, ∀ touched, footprint.touched (key row) = some touched →
          touched.after.row = row) →
        (next rows).Ensures key known post (footprint.lockRows key rows entriesOf)
  | .adjust change next, footprint => next.Ensures key known post (footprint.adjust change)

end Transaction

/-- Renaming the answer renames it in the rule. -/
theorem Transaction.ensures_map {γ : Type} [DecidableEq κ] {key : ρ → κ} {known : κ → Prop}
    {post : γ → Footprint κ ρ β σ → Prop} (f : α → γ) (program : Transaction κ ρ β σ δ α)
    (footprint : Footprint κ ρ β σ) :
    (program.map f).Ensures key known post footprint ↔
      program.Ensures key known (fun answer => post (f answer)) footprint := by
  induction program generalizing footprint with
  | done answer => rfl
  | raised error => rfl
  | insert row next ih => simp only [map, Ensures, ih]
  | lock k next ih => simp only [map, Ensures, ih]
  | append k body next ih => simp only [map, Ensures, ih]
  | update k guard change next ih => simp only [map, Ensures, ih]
  | pick wanted before limit next ih => simp only [map, Ensures, ih]
  | adjust change next ih => simp only [map, Ensures, ih]

/-- A rule may be weakened. -/
theorem Transaction.Ensures.mono [DecidableEq κ] {key : ρ → κ} {known : κ → Prop}
    {post weaker : α → Footprint κ ρ β σ → Prop} {program : Transaction κ ρ β σ δ α}
    {footprint : Footprint κ ρ β σ} (ensured : program.Ensures key known post footprint)
    (weakens : ∀ answer footprint, post answer footprint → weaker answer footprint) :
    program.Ensures key known weaker footprint := by
  induction program generalizing footprint with
  | done answer => exact weakens _ _ ensured
  | raised error => trivial
  | insert row next ih => exact fun free => ih (ensured free)
  | lock k next ih =>
    simp only [Ensures] at ensured ⊢
    split at ensured
    · exact ih ensured
    · exact ⟨fun dossier keyed => ih (ensured.1 dossier keyed),
        fun unknown => ih (ensured.2 unknown)⟩
  | append k body next ih =>
    simp only [Ensures] at ensured ⊢
    split at ensured
    · exact ih ensured
    · exact ensured
  | update k guard change next ih =>
    simp only [Ensures] at ensured ⊢
    refine ⟨ensured.1, ?_⟩
    replace ensured := ensured.2
    split at ensured
    · next touched held =>
      by_cases passes : guard touched.after.row = true
      · simp only [passes, ↓reduceIte] at ensured ⊢
        exact ih _ ensured
      · simp only [passes] at ensured ⊢
        exact ih _ ensured
    · exact ⟨fun dossier keyed passes => ih _ (ensured.1 dossier keyed passes), ih _ ensured.2⟩
  | pick wanted before limit next ih =>
    exact fun rows entriesOf distinct bounded passes own =>
      ih _ (ensured rows entriesOf distinct bounded passes own)
  | adjust change next ih => exact ih ensured

namespace Store
variable [DecidableEq κ] {key : ρ → κ}

/-- The row under a key with its log entries. -/
def dossier? (store : Store key β σ) (k : κ) : Option (Dossier κ ρ β) :=
  (store.table.find? k).map (fun row => ⟨row, LogEntry.ofOwner k store.log⟩)

/-- The foreign key of the log: an entry's owner has a row. -/
def Linked (store : Store key β σ) : Prop :=
  ∀ k, store.table.find? k = none → LogEntry.ofOwner k store.log = []

theorem dossier?_eq_some {store : Store key β σ} {k : κ} {dossier : Dossier κ ρ β} :
    store.dossier? k = some dossier ↔
      store.table.find? k = some dossier.row ∧ LogEntry.ofOwner k store.log = dossier.entries := by
  obtain ⟨row, entries⟩ := dossier
  cases found : store.table.find? k <;> simp [dossier?, found]

theorem dossier?_eq_none {store : Store key β σ} {k : κ} :
    store.dossier? k = none ↔ store.table.find? k = none := by
  simp [dossier?]

/-- A dossier is kept under the key of its row. -/
theorem dossier?_key {store : Store key β σ} {k : κ} {dossier : Dossier κ ρ β}
    (found : store.dossier? k = some dossier) : key dossier.row = k :=
  Table.find?_key (dossier?_eq_some.mp found).1

/-- Writing a row changes the dossier under its own key. -/
theorem dossier?_put (store : Store key β σ) (row : ρ) (k : κ) :
    dossier? { store with table := store.table.put row } k =
      if k = key row then some ⟨row, LogEntry.ofOwner k store.log⟩ else store.dossier? k := by
  simp only [dossier?, Table.find?_put, eq_comm (a := k)]
  split <;> rfl

/-- Writing a row never breaks the foreign key. -/
theorem Linked.put {store : Store key β σ} (linked : store.Linked) (row : ρ) :
    Linked { store with table := store.table.put row } := by
  intro k absent
  simp only [Table.find?_put] at absent
  split at absent
  · cases absent
  · exact linked k absent

/-- Appending an entry changes the dossier of its owner. -/
theorem dossier?_extend (store : Store key β σ) (k other : κ) (body : β) :
    dossier? { store with log := LogEntry.extend store.log k body } other =
      if other = k then (store.dossier? k).map (·.record k body) else store.dossier? other := by
  by_cases same : other = k
  · subst same
    simp [dossier?, LogEntry.ofOwner_extend_self, Dossier.record, Function.comp_def]
  · simp [dossier?, LogEntry.ofOwner_extend_ne _ _ (Ne.symm same), same]

/-- Appending an entry for an existing row keeps the foreign key. -/
theorem Linked.extend {store : Store key β σ} (linked : store.Linked) {k : κ} {row : ρ}
    (found : store.table.find? k = some row) (body : β) :
    Linked { store with log := LogEntry.extend store.log k body } := by
  intro other absent
  have distinct : k ≠ other := by
    rintro rfl
    rw [show store.table.find? k = none from absent] at found
    cases found
  exact (LogEntry.ofOwner_extend_ne store.log body distinct).trans (linked other absent)

end Store

namespace Footprint
variable [DecidableEq κ] {key : ρ → κ}

/-- The footprint describes how `start` became `store`. -/
structure Leads (footprint : Footprint κ ρ β σ) (start store : Store key β σ) : Prop where
  untouched : ∀ k, footprint.touched k = none → store.dossier? k = start.dossier? k
  touched : ∀ k touched, footprint.touched k = some touched →
    touched.before = start.dossier? k ∧ store.dossier? k = some touched.after
  side : store.side = footprint.side start.side
  linked : store.Linked

/-- Doing nothing leads from a store to itself. -/
theorem Leads.refl {store : Store key β σ} (linked : store.Linked) :
    Footprint.untouched.Leads store store :=
  ⟨fun _ _ => rfl, fun _ _ found => by simp at found, rfl, linked⟩

/-- A changed store with one changed key. Every statement that writes is an
instance: it has to say what became of its own key and that the others stayed. -/
theorem Leads.set {footprint : Footprint κ ρ β σ} {start store store' : Store key β σ} {k : κ}
    {touched : Touched κ ρ β} (leads : footprint.Leads start store)
    (before : touched.before = start.dossier? k) (after : store'.dossier? k = some touched.after)
    (others : ∀ other, other ≠ k → store'.dossier? other = store.dossier? other)
    (side : store'.side = store.side) (linked : store'.Linked) :
    (footprint.set k touched).Leads start store' where
  untouched other absent := by
    by_cases same : other = k
    · subst same
      simp at absent
    · rw [touched_set_ne _ _ same] at absent
      rw [others other same, leads.untouched other absent]
  touched other held found := by
    by_cases same : other = k
    · subst same
      rw [touched_set_self, Option.some.injEq] at found
      exact found ▸ ⟨before, after⟩
    · rw [touched_set_ne _ _ same] at found
      rw [others other same]
      exact leads.touched other held found
  side := side.trans leads.side
  linked := linked

/-- Locking an existing row changes no store. -/
theorem Leads.lock {footprint : Footprint κ ρ β σ} {start store : Store key β σ} {k : κ}
    {dossier : Dossier κ ρ β} (leads : footprint.Leads start store)
    (free : footprint.touched k = none) (found : store.dossier? k = some dossier) :
    (footprint.set k (Touched.locked dossier)).Leads start store :=
  leads.set (by rw [← leads.untouched k free, found]; rfl) found (fun _ _ => rfl) rfl leads.linked

/-- Inserting a fresh row. -/
theorem Leads.insert {footprint : Footprint κ ρ β σ} {start store : Store key β σ} {row : ρ}
    (leads : footprint.Leads start store) (fresh : store.table.find? (key row) = none) :
    footprint.touched (key row) = none ∧
      (footprint.set (key row) ⟨none, ⟨row, []⟩⟩).Leads start
        { store with table := store.table.put row } := by
  have absent : store.dossier? (key row) = none := Store.dossier?_eq_none.mpr fresh
  have free : footprint.touched (key row) = none := by
    rw [Option.eq_none_iff_forall_ne_some]
    intro touched held
    have stored := (leads.touched _ _ held).2
    rw [absent] at stored
    cases stored
  refine ⟨free, leads.set ?_ ?_ ?_ rfl (leads.linked.put row)⟩
  · rw [← leads.untouched _ free, absent]
  · rw [Store.dossier?_put, if_pos rfl, leads.linked _ fresh]
  · intro other distinct
    rw [Store.dossier?_put, if_neg distinct]

/-- Appending an entry for a held key. -/
theorem Leads.append {footprint : Footprint κ ρ β σ} {start store : Store key β σ} {k : κ}
    {touched : Touched κ ρ β} (leads : footprint.Leads start store)
    (held : footprint.touched k = some touched) (body : β) :
    (footprint.set k (touched.revise (·.record k body))).Leads start
      { store with log := LogEntry.extend store.log k body } := by
  obtain ⟨before, after⟩ := leads.touched k touched held
  refine leads.set before ?_ ?_ rfl
    (leads.linked.extend (Store.dossier?_eq_some.mp after).1 body)
  · rw [Store.dossier?_extend, if_pos rfl, after]
    rfl
  · intro other distinct
    rw [Store.dossier?_extend, if_neg distinct]

/-- Rewriting the row of a key, held or not. -/
theorem Leads.rewrite {footprint : Footprint κ ρ β σ} {start store : Store key β σ} {k : κ}
    {touched : Touched κ ρ β} {row : ρ} (leads : footprint.Leads start store)
    (keyed : key row = k) (before : touched.before = start.dossier? k)
    (found : store.dossier? k = some touched.after) :
    (footprint.set k (touched.revise (·.rewrite row))).Leads start
      { store with table := store.table.put row } := by
  subst keyed
  refine leads.set before ?_ ?_ rfl (leads.linked.put row)
  · rw [Store.dossier?_put, if_pos rfl, (Store.dossier?_eq_some.mp found).2]
    rfl
  · intro other distinct
    rw [Store.dossier?_put, if_neg distinct]

/-- Locking a list of stored rows. -/
theorem Leads.lockRows {footprint : Footprint κ ρ β σ} {start store : Store key β σ}
    (leads : footprint.Leads start store) {rows : List ρ}
    (stored : ∀ row ∈ rows, store.table.find? (key row) = some row) :
    (footprint.lockRows key rows (fun k => LogEntry.ofOwner k store.log)).Leads start store where
  untouched k absent := by
    refine leads.untouched k ?_
    simp only [Footprint.lockRows, Option.or_eq_none_iff] at absent
    exact absent.1
  touched k touched found := by
    rcases touched_lockRows found with held | ⟨free, row, member, keyed, rfl⟩
    · exact leads.touched k touched held
    · have dossier : store.dossier? k = some ⟨row, LogEntry.ofOwner k store.log⟩ :=
        Store.dossier?_eq_some.mpr ⟨keyed ▸ stored row member, rfl⟩
      exact ⟨by rw [← leads.untouched k free, dossier]; rfl, dossier⟩
  side := leads.side
  linked := leads.linked

/-- Changing the side table. -/
theorem Leads.adjust {footprint : Footprint κ ρ β σ} {start store : Store key β σ}
    (leads : footprint.Leads start store) (change : σ → σ) :
    (footprint.adjust change).Leads start { store with side := change store.side } :=
  ⟨leads.untouched, leads.touched, congrArg change leads.side, leads.linked⟩

end Footprint

namespace Transaction
variable [DecidableEq κ] {key : ρ → κ} {known : κ → Prop} {post : α → Footprint κ ρ β σ → Prop}

/-- After locking an existing row the key is held. -/
theorem Ensures.lock_found {k : κ} {next : Transaction κ ρ β σ δ α}
    {footprint : Footprint κ ρ β σ} {start store : Store key β σ} {row : ρ}
    (ensured : (Transaction.lock k next).Ensures key known post footprint)
    (leads : footprint.Leads start store) (found : store.table.find? k = some row) :
    ∃ touched, next.Ensures key known post (footprint.set k touched) ∧
      (footprint.set k touched).Leads start store := by
  cases held : footprint.touched k with
  | some touched =>
    simp only [Ensures, held] at ensured
    refine ⟨touched, ?_⟩
    rw [Footprint.set_eq_self held]
    exact ⟨ensured, leads⟩
  | none =>
    simp only [Ensures, held] at ensured
    have dossier : store.dossier? k = some ⟨row, LogEntry.ofOwner k store.log⟩ :=
      Store.dossier?_eq_some.mpr ⟨found, rfl⟩
    exact ⟨_, ensured.1 _ (Store.dossier?_key dossier), leads.lock held dossier⟩

/-- A lock that finds no row holds nothing, and the key was not a promised one. -/
theorem Ensures.lock_missing {k : κ} {next : Transaction κ ρ β σ δ α}
    {footprint : Footprint κ ρ β σ} {start store : Store key β σ}
    (ensured : (Transaction.lock k next).Ensures key known post footprint)
    (leads : footprint.Leads start store)
    (promised : ∀ k, known k → (start.table.find? k).isSome)
    (missing : store.table.find? k = none) : next.Ensures key known post footprint := by
  have absent := Store.dossier?_eq_none.mpr missing
  cases held : footprint.touched k with
  | some touched =>
    have stored := (leads.touched k touched held).2
    rw [absent] at stored
    cases stored
  | none =>
    simp only [Ensures, held] at ensured
    refine ensured.2 (fun isKnown => ?_)
    have started := promised k isKnown
    rw [leads.untouched k held, Store.dossier?_eq_none] at absent
    rw [absent] at started
    cases started

/-- The row an `UPDATE` matches is the one its rule speaks about. -/
theorem Ensures.update_matched {k : κ} {guard : ρ → Bool} {change : ρ → ρ}
    {next : Option ρ → Transaction κ ρ β σ δ α} {footprint : Footprint κ ρ β σ}
    {start store : Store key β σ} {row : ρ}
    (ensured : (Transaction.update k guard change next).Ensures key known post footprint)
    (leads : footprint.Leads start store) (found : store.table.find? k = some row)
    (passes : guard row = true) :
    ∃ touched, (next (some (change row))).Ensures key known post (footprint.set k touched) ∧
      (footprint.set k touched).Leads start
        { store with table := store.table.put (change row) } := by
  simp only [Ensures] at ensured
  obtain ⟨keeps, ensured⟩ := ensured
  have keyed : key (change row) = k := (keeps row).trans (Table.find?_key found)
  cases held : footprint.touched k with
  | some touched =>
    obtain ⟨before, after⟩ := leads.touched k touched held
    have same : touched.after.row = row := by
      have stored := (Store.dossier?_eq_some.mp after).1
      rw [found, Option.some.injEq] at stored
      exact stored.symm
    simp only [held, same, passes, ↓reduceIte] at ensured
    refine ⟨touched.revise (·.rewrite (change row)), ?_, leads.rewrite keyed before after⟩
    have revised : touched.revise (fun dossier => dossier.rewrite (change dossier.row)) =
        touched.revise (·.rewrite (change row)) := by
      simp [Touched.revise, Dossier.rewrite, same]
    exact revised ▸ ensured
  | none =>
    simp only [held] at ensured
    have dossier : store.dossier? k = some ⟨row, LogEntry.ofOwner k store.log⟩ :=
      Store.dossier?_eq_some.mpr ⟨found, rfl⟩
    have started : (Touched.locked ⟨row, LogEntry.ofOwner k store.log⟩).before =
        start.dossier? k := by
      rw [← leads.untouched k held, dossier]
      rfl
    exact ⟨_, ensured.1 ⟨row, LogEntry.ofOwner k store.log⟩ (Table.find?_key found) passes,
      leads.rewrite keyed started dossier⟩

/-- An `UPDATE` that matches nothing continues with no row. -/
theorem Ensures.update_unmatched {k : κ} {guard : ρ → Bool} {change : ρ → ρ}
    {next : Option ρ → Transaction κ ρ β σ δ α} {footprint : Footprint κ ρ β σ}
    {start store : Store key β σ}
    (ensured : (Transaction.update k guard change next).Ensures key known post footprint)
    (leads : footprint.Leads start store)
    (unmatched : (store.table.find? k).filter guard = none) :
    (next none).Ensures key known post footprint := by
  simp only [Ensures] at ensured
  replace ensured := ensured.2
  cases held : footprint.touched k with
  | some touched =>
    have stored := (Store.dossier?_eq_some.mp (leads.touched k touched held).2).1
    have fails : guard touched.after.row = false := by
      rw [stored] at unmatched
      simpa [Option.filter_eq_none_iff] using unmatched
    simpa [held, fails] using ensured
  | none =>
    simp only [held] at ensured
    exact ensured.2

/-- Stored rows that a `SELECT … FOR UPDATE` returned are rows its rule speaks
about. -/
theorem Ensures.picked {wanted : ρ → Bool} {before : ρ → ρ → Bool} {limit : Nat}
    {next : List ρ → Transaction κ ρ β σ δ α} {footprint : Footprint κ ρ β σ}
    {start store : Store key β σ} {rows : List ρ}
    (ensured : (Transaction.pick wanted before limit next).Ensures key known post footprint)
    (leads : footprint.Leads start store) (distinct : (rows.map key).Nodup)
    (bounded : rows.length ≤ limit) (passes : ∀ row ∈ rows, wanted row = true)
    (stored : ∀ row ∈ rows, store.table.find? (key row) = some row) :
    (next rows).Ensures key known post
      (footprint.lockRows key rows (fun k => LogEntry.ofOwner k store.log)) := by
  refine ensured rows _ distinct bounded passes ?_
  intro row member touched held
  have after := (Store.dossier?_eq_some.mp (leads.touched _ _ held).2).1
  rw [stored row member, Option.some.injEq] at after
  exact after.symm

/-- Soundness for atomic execution: a committed transaction has a footprint that
satisfies `post` and describes the change of the store.

Induction on the tree, carrying the footprint of the statements executed so far. -/
theorem execute_ensures {program : Transaction κ ρ β σ δ α} {footprint : Footprint κ ρ β σ}
    {start store store' : Store key β σ} {locked : κ → Bool} {answer : α}
    (ensured : program.Ensures key known post footprint) (leads : footprint.Leads start store)
    (promised : ∀ k, known k → (start.table.find? k).isSome)
    (executed : program.execute locked store = .ok (answer, store')) :
    ∃ final, post answer final ∧ final.Leads start store' := by
  induction program generalizing footprint store with
  | done result =>
    simp only [execute, Except.ok.injEq, Prod.mk.injEq] at executed
    obtain ⟨rfl, rfl⟩ := executed
    exact ⟨footprint, ensured, leads⟩
  | raised error => simp [execute] at executed
  | insert row next ih =>
    simp only [execute] at executed
    split at executed
    · cases executed
    · next fresh =>
      rw [Bool.not_eq_true, Option.isSome_eq_false_iff, Option.isNone_iff_eq_none] at fresh
      obtain ⟨free, inserted⟩ := leads.insert fresh
      exact ih (ensured free) inserted executed
  | lock k next ih =>
    simp only [execute] at executed
    cases found : store.table.find? k with
    | some row =>
      obtain ⟨_, continued, led⟩ := ensured.lock_found leads found
      exact ih continued led executed
    | none => exact ih (ensured.lock_missing leads promised found) leads executed
  | append k body next ih =>
    simp only [execute] at executed
    split at executed
    · cases held : footprint.touched k with
      | none => simp [Ensures, held] at ensured
      | some touched =>
        simp only [Ensures, held] at ensured
        exact ih ensured (leads.append held body) executed
    · cases executed
  | update k guard change next ih =>
    simp only [execute] at executed
    split at executed
    · next row matched =>
      obtain ⟨found, passes⟩ := Option.filter_eq_some_iff.mp matched
      obtain ⟨_, continued, led⟩ := ensured.update_matched leads found passes
      exact ih _ continued led executed
    · next unmatched => exact ih _ (ensured.update_unmatched leads unmatched) leads executed
  | pick wanted before limit next ih =>
    simp only [execute] at executed
    have stored : ∀ row ∈ store.table.select (fun row => wanted row && !locked (key row)) before
        limit, store.table.find? (key row) = some row ∧ wanted row = true := by
      intro row member
      obtain ⟨inTable, passes⟩ := Table.mem_select member
      exact ⟨Table.find?_of_mem inTable, (Bool.and_eq_true_iff.mp passes).1⟩
    have continued := ensured.picked leads (Table.select_distinct _ _ _ _)
      (Table.select_length_le _ _ _ _) (fun row member => (stored row member).2)
      (fun row member => (stored row member).1)
    exact ih _ continued (leads.lockRows (fun row member => (stored row member).1)) executed
  | adjust change next ih => exact ih ensured (leads.adjust change) executed

end Transaction

end RlmApi
