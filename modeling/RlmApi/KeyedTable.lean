import Mathlib.Data.List.Induction
import Mathlib.Data.List.Nodup
import Mathlib.Data.List.Sort

/-!
# Finite tables with a primary key

A table is a finite list of rows whose keys are pairwise distinct; the
distinctness is carried by the structure, so a table with two rows under one key
cannot be built. Writing a row replaces the row with the same key in place, or
appends a row with a fresh key. A selection filters the rows, orders them and
keeps a bounded prefix, as `SELECT … WHERE … ORDER BY … LIMIT` does.

Row and key types are arbitrary. Every law below is stated through lookup by
key, so a client never needs to inspect the list of rows.
-/

namespace RlmApi

variable {κ ρ : Type} {key : ρ → κ}

/-- Rows in storage order, with pairwise distinct keys. -/
structure Table (key : ρ → κ) where
  rows : List ρ
  distinct : (rows.map key).Nodup

namespace Table

/-- The table without rows. -/
def empty : Table key := ⟨[], List.nodup_nil⟩

/-- `DELETE … WHERE NOT keep`. -/
def filter (table : Table key) (keep : ρ → Bool) : Table key :=
  ⟨table.rows.filter keep, table.distinct.sublist (List.filter_sublist.map key)⟩

/-- The tables have the same rows of one kind. -/
def AgreeOn (kind : ρ → Prop) (first second : Table key) : Prop :=
  ∀ row, kind row → (row ∈ first.rows ↔ row ∈ second.rows)

theorem AgreeOn.refl {kind : ρ → Prop} (table : Table key) : AgreeOn kind table table :=
  fun _ _ => Iff.rfl

section Lookup
variable [DecidableEq κ]

/-- The row stored under a key. -/
def find? (table : Table key) (k : κ) : Option ρ :=
  table.rows.find? (fun row => decide (key row = k))

/-- Replace the first row with the same key, or append the row at the end. -/
def putRow (key : ρ → κ) (row : ρ) : List ρ → List ρ
  | [] => [row]
  | head :: rest => if key head = key row then row :: rest else head :: putRow key row rest

/-- Writing a row changes the list of keys only by appending a fresh one. -/
theorem putRow_keys (row : ρ) (rows : List ρ) :
    (putRow key row rows).map key =
      if key row ∈ rows.map key then rows.map key else rows.map key ++ [key row] := by
  induction rows with
  | nil => simp [putRow]
  | cons head rest ih =>
    by_cases same : key head = key row
    · simp [putRow, same]
    · have other : ¬ key row = key head := fun equal => same equal.symm
      simp only [putRow, same, ↓reduceIte, List.map_cons, ih, List.mem_cons, other, false_or]
      split <;> rfl

/-- A write adds no row but the written one. -/
theorem mem_putRow {row stored : ρ} {rows : List ρ} (member : stored ∈ putRow key row rows) :
    stored = row ∨ stored ∈ rows := by
  induction rows with
  | nil => exact Or.inl (List.mem_singleton.mp member)
  | cons head rest ih =>
    simp only [putRow] at member
    split at member
    · exact (List.mem_cons.mp member).imp_right (List.mem_cons_of_mem head)
    · rcases List.mem_cons.mp member with rfl | inRest
      · exact Or.inr List.mem_cons_self
      · exact (ih inRest).imp_right (List.mem_cons_of_mem head)

/-- The rows after a write are the written one and those under other keys. -/
theorem mem_putRow_iff {row stored : ρ} {rows : List ρ} (distinct : (rows.map key).Nodup) :
    stored ∈ putRow key row rows ↔ stored = row ∨ stored ∈ rows ∧ key stored ≠ key row := by
  induction rows with
  | nil => simp [putRow]
  | cons head rest ih =>
    rw [List.map_cons, List.nodup_cons] at distinct
    obtain ⟨apart, distinct⟩ := distinct
    by_cases replaced : key head = key row
    · have others : ∀ other ∈ rest, key other ≠ key row := fun other member same =>
        apart (replaced.trans same.symm ▸ List.mem_map_of_mem member)
      simp only [putRow, replaced, ↓reduceIte, List.mem_cons]
      constructor
      · rintro (rfl | later)
        · exact Or.inl rfl
        · exact Or.inr ⟨Or.inr later, others stored later⟩
      · rintro (rfl | ⟨rfl | later, other⟩)
        · exact Or.inl rfl
        · exact absurd replaced other
        · exact Or.inr later
    · simp only [putRow, replaced, ↓reduceIte, List.mem_cons, ih distinct]
      constructor
      · rintro (rfl | rfl | ⟨later, other⟩)
        · exact Or.inr ⟨Or.inl rfl, replaced⟩
        · exact Or.inl rfl
        · exact Or.inr ⟨Or.inr later, other⟩
      · rintro (rfl | ⟨rfl | later, other⟩)
        · exact Or.inr (Or.inl rfl)
        · exact Or.inl rfl
        · exact Or.inr (Or.inr ⟨later, other⟩)

/-- Writing a row under a fresh key appends it. -/
theorem putRow_fresh {row : ρ} {rows : List ρ} (fresh : ∀ stored ∈ rows, key stored ≠ key row) :
    putRow key row rows = rows ++ [row] := by
  induction rows with
  | nil => rfl
  | cons head rest ih =>
    have other : key head ≠ key row := fresh head List.mem_cons_self
    simp only [putRow, other, ↓reduceIte, List.cons_append, List.cons.injEq, true_and]
    exact ih (fun stored member => fresh stored (List.mem_cons_of_mem head member))

/-- Writing a row keeps the keys distinct. -/
theorem putRow_distinct (row : ρ) (rows : List ρ) (distinct : (rows.map key).Nodup) :
    ((putRow key row rows).map key).Nodup := by
  rw [putRow_keys]
  split
  · exact distinct
  · next fresh =>
    refine List.nodup_append.mpr ⟨distinct, by simp, ?_⟩
    intro stored member added only
    rw [List.mem_singleton] at only
    exact fun equal => fresh (only ▸ equal ▸ member)

/-- Write a row under its key. -/
def put (table : Table key) (row : ρ) : Table key :=
  ⟨putRow key row table.rows, putRow_distinct row table.rows table.distinct⟩

/-- A row found under a key has that key. -/
theorem find?_key {table : Table key} {k : κ} {row : ρ} (found : table.find? k = some row) :
    key row = k := by
  simpa using List.find?_some found

/-- A found row is stored. -/
theorem find?_mem {table : Table key} {k : κ} {row : ρ} (found : table.find? k = some row) :
    row ∈ table.rows :=
  List.mem_of_find?_eq_some found

/-- A stored row is found under its key; distinct keys exclude any other. -/
theorem find?_of_mem {table : Table key} {row : ρ} (member : row ∈ table.rows) :
    table.find? (key row) = some row := by
  obtain ⟨rows, distinct⟩ := table
  simp only [find?] at member ⊢
  induction rows with
  | nil => simp at member
  | cons head rest ih =>
    simp only [List.map_cons, List.nodup_cons] at distinct
    rcases List.mem_cons.mp member with rfl | inRest
    · simp
    · have other : key head ≠ key row := by
        intro same
        exact distinct.1 (same ▸ List.mem_map_of_mem inRest)
      simp only [List.find?_cons, other, decide_false]
      exact ih distinct.2 inRest

/-- The rows under a key are the row found there. -/
theorem filter_key (table : Table key) (k : κ) :
    table.rows.filter (fun row => decide (key row = k)) = (table.find? k).toList := by
  obtain ⟨rows, distinct⟩ := table
  simp only [find?]
  induction rows with
  | nil => rfl
  | cons head rest ih =>
    obtain ⟨fresh, distinctRest⟩ := List.nodup_cons.mp distinct
    by_cases same : key head = k
    · have others : rest.filter (fun row => decide (key row = k)) = [] := by
        rw [List.filter_eq_nil_iff]
        intro row member equal
        rw [decide_eq_true_eq] at equal
        exact fresh ((same.trans equal.symm) ▸ List.mem_map_of_mem member)
      simp [same, others]
    · simp [same, ih distinctRest]

/-- A row written under a fresh key comes to the stored ones. -/
theorem mem_put_fresh {table : Table key} {row stored : ρ} (fresh : table.find? (key row) = none) :
    stored ∈ (table.put row).rows ↔ stored ∈ table.rows ∨ stored = row := by
  have apart : ∀ other ∈ table.rows, key other ≠ key row := by
    intro other member same
    rw [← same, find?_of_mem member] at fresh
    cases fresh
  rw [show (table.put row).rows = putRow key row table.rows from rfl, putRow_fresh apart]
  simp

/-- A row that a deletion keeps is found as before. -/
theorem find?_filter {table : Table key} {keep : ρ → Bool} {k : κ} {row : ρ}
    (found : table.find? k = some row) (kept : keep row = true) :
    (table.filter keep).find? k = some row := by
  have member : row ∈ (table.filter keep).rows := List.mem_filter.mpr ⟨find?_mem found, kept⟩
  rw [← find?_key found]
  exact find?_of_mem member

/-- Lookup in a list after a write reads the written row under its own key and
the earlier list elsewhere. -/
theorem find_putRow (row : ρ) (rows : List ρ) (k : κ) :
    (putRow key row rows).find? (fun stored => decide (key stored = k)) =
      if key row = k then some row else rows.find? (fun stored => decide (key stored = k)) := by
  induction rows with
  | nil => by_cases same : key row = k <;> simp [putRow, same]
  | cons head rest ih =>
    by_cases replaced : key head = key row
    · by_cases same : key row = k
      · simp [putRow, replaced, same]
      · simp [putRow, replaced, same]
    · by_cases same : key row = k
      · have headOther : key head ≠ k := fun equal => replaced (equal.trans same.symm)
        simp [putRow, ih, same, headOther]
      · simp [putRow, replaced, ih, same, List.find?_cons]

/-- Lookup after a write. -/
theorem find?_put (table : Table key) (row : ρ) (k : κ) :
    (table.put row).find? k = if key row = k then some row else table.find? k :=
  find_putRow row table.rows k

@[simp] theorem find?_put_self (table : Table key) (row : ρ) :
    (table.put row).find? (key row) = some row := by
  simp [find?_put]

/-- A write leaves every other key as it was. -/
theorem find?_put_ne (table : Table key) {row : ρ} {k : κ} (other : key row ≠ k) :
    (table.put row).find? k = table.find? k := by
  simp [find?_put, other]

/-- After several writes a key reads its last version, or the earlier table. -/
theorem find?_foldl_put (versions : List ρ) (table : Table key) (k : κ) :
    (versions.foldl put table).find? k =
      ((versions.filter (fun row => decide (key row = k))).getLast?).or (table.find? k) := by
  induction versions using List.reverseRecOn with
  | nil => rfl
  | append_singleton earlier row ih =>
    rw [List.foldl_append, List.foldl_cons, List.foldl_nil, find?_put, List.filter_append, ih]
    by_cases same : key row = k <;> simp [same]

/-- `UPDATE … SET change WHERE key = k AND guard RETURNING *`. -/
def update (table : Table key) (k : κ) (guard : ρ → Bool) (change : ρ → ρ) :
    Option ρ × Table key :=
  match (table.find? k).filter guard with
  | some row => (some (change row), table.put (change row))
  | none => (none, table)

/-- An update changes one row, if that passes the guard, and keeps its key. -/
theorem find?_update (table : Table key) (k other : κ) {guard : ρ → Bool} {change : ρ → ρ}
    (keeps : ∀ row, key (change row) = key row) :
    (table.update k guard change).2.find? other = (table.find? other).map
      (fun row => if other = k ∧ guard row = true then change row else row) := by
  cases matched : (table.find? k).filter guard with
  | some row =>
    obtain ⟨found, passes⟩ := Option.filter_eq_some_iff.mp matched
    have keyed : key (change row) = k := (keeps row).trans (find?_key found)
    simp only [update, matched, find?_put, keyed]
    by_cases same : other = k
    · subst same
      simp [found, passes]
    · simp [same, Ne.symm same]
  | none =>
    simp only [update, matched]
    by_cases same : other = k
    · subst same
      cases found : table.find? other with
      | none => rfl
      | some row =>
        rw [found, Option.filter_eq_none_iff] at matched
        simp [matched row rfl]
    · simp [same]

theorem mem_rows_iff {table : Table key} {row : ρ} :
    row ∈ table.rows ↔ table.find? (key row) = some row :=
  ⟨find?_of_mem, find?_mem⟩

/-- A write of another kind over a row of another kind. -/
theorem agreeOn_put {kind : ρ → Prop} {table : Table key} {row : ρ} (outside : ¬ kind row)
    (replaced : ∀ stored, table.find? (key row) = some stored → ¬ kind stored) :
    AgreeOn kind (table.put row) table := by
  intro other wanted
  rw [mem_rows_iff, mem_rows_iff, find?_put]
  by_cases same : key row = key other
  · rw [if_pos same]
    constructor
    · intro written
      exact absurd (Option.some.inj written ▸ wanted) outside
    · intro stored
      exact absurd wanted (replaced other (same ▸ stored))
  · rw [if_neg same]

/-- An update of a row of another kind that stays of another kind. -/
theorem agreeOn_update {kind : ρ → Prop} {table : Table key} {k : κ} {guard : ρ → Bool}
    {change : ρ → ρ} (keeps : ∀ row, key (change row) = key row)
    (outside : ∀ stored, table.find? k = some stored → ¬ kind stored ∧ ¬ kind (change stored)) :
    AgreeOn kind (table.update k guard change).2 table := by
  cases matched : (table.find? k).filter guard with
  | none =>
    simp only [update, matched]
    exact AgreeOn.refl table
  | some row =>
    have found := (Option.filter_eq_some_iff.mp matched).1
    simp only [update, matched]
    refine agreeOn_put (outside row found).2 (fun stored there => ?_)
    rw [keeps, find?_key found, found] at there
    exact Option.some.inj there ▸ (outside row found).1

end Lookup

/-- `UPDATE … SET change WHERE wanted`, with a change that keeps the keys. -/
def modify (table : Table key) (wanted : ρ → Bool) (change : ρ → ρ)
    (keeps : ∀ row, key (change row) = key row) : Table key where
  rows := table.rows.map (fun row => if wanted row then change row else row)
  distinct := by
    have same : key ∘ (fun row => if wanted row then change row else row) = key := by
      funext row
      simp only [Function.comp_apply]
      split
      · exact keeps row
      · rfl
    rw [List.map_map, same]
    exact table.distinct

/-- An update without a key changes every wanted row. -/
theorem mem_modify {table : Table key} {wanted : ρ → Bool} {change : ρ → ρ}
    {keeps : ∀ row, key (change row) = key row} {row : ρ} :
    row ∈ (table.modify wanted change keeps).rows ↔
      ∃ stored ∈ table.rows, (if wanted stored then change stored else stored) = row :=
  List.mem_map

/-- An update without a key keeps each row in its place. -/
theorem find?_modify [DecidableEq κ] (table : Table key) {wanted : ρ → Bool} {change : ρ → ρ}
    {keeps : ∀ row, key (change row) = key row} (k : κ) :
    (table.modify wanted change keeps).find? k =
      (table.find? k).map (fun row => if wanted row then change row else row) := by
  have same : (fun row => decide (key row = k)) ∘
      (fun row => if wanted row then change row else row) = fun row => decide (key row = k) := by
    funext row
    simp only [Function.comp_apply]
    split
    · rw [keeps]
    · rfl
  simp only [find?, modify, List.find?_map, same]

/-- At most one row is under a key. -/
theorem filter_length_le_one {table : Table key} {wanted : ρ → Bool} (k : κ)
    (same : ∀ row ∈ table.rows, wanted row = true → key row = k) :
    (table.rows.filter wanted).length ≤ 1 := by
  have distinct : ((table.rows.filter wanted).map key).Nodup :=
    table.distinct.sublist (List.filter_sublist.map key)
  have constant : (table.rows.filter wanted).map key =
      List.replicate (table.rows.filter wanted).length k := by
    refine List.eq_replicate_iff.mpr ⟨List.length_map key, fun other member => ?_⟩
    obtain ⟨row, kept, rfl⟩ := List.mem_map.mp member
    obtain ⟨stored, passes⟩ := List.mem_filter.mp kept
    exact same row stored passes
  rw [constant, List.nodup_replicate] at distinct
  exact distinct

/-- The first `limit` wanted rows in the given order. -/
def select (table : Table key) (wanted : ρ → Bool) (before : ρ → ρ → Bool) (limit : Nat) :
    List ρ :=
  ((table.rows.filter wanted).insertionSort (fun a b => before a b = true)).take limit

/-- Every selected row is stored and wanted. -/
theorem mem_select {table : Table key} {wanted : ρ → Bool} {before : ρ → ρ → Bool}
    {limit : Nat} {row : ρ} (member : row ∈ table.select wanted before limit) :
    row ∈ table.rows ∧ wanted row = true := by
  have sorted := List.mem_of_mem_take member
  rw [List.mem_insertionSort] at sorted
  exact List.mem_filter.mp sorted

/-- A selection never returns two rows under one key. -/
theorem select_distinct (table : Table key) (wanted : ρ → Bool) (before : ρ → ρ → Bool)
    (limit : Nat) : ((table.select wanted before limit).map key).Nodup := by
  have filtered : ((table.rows.filter wanted).map key).Nodup :=
    table.distinct.sublist (List.filter_sublist.map key)
  have sorted := ((List.perm_insertionSort (fun a b => before a b = true)
    (table.rows.filter wanted)).map key).nodup_iff.mpr filtered
  exact sorted.sublist ((List.take_sublist _ _).map key)

/-- A selection is bounded by its limit. -/
theorem select_length_le (table : Table key) (wanted : ρ → Bool) (before : ρ → ρ → Bool)
    (limit : Nat) : (table.select wanted before limit).length ≤ limit :=
  List.length_take_le _ _

/-- With a total preorder, selecting one row gives a first one of the wanted rows. -/
theorem select_one {table : Table key} {wanted : ρ → Bool} {before : ρ → ρ → Bool} {row : ρ}
    (total : ∀ a b, before a b = true ∨ before b a = true)
    (trans : ∀ a b c, before a b = true → before b c = true → before a c = true)
    (member : row ∈ table.rows) (passes : wanted row = true) :
    ∃ first, table.select wanted before 1 = [first] ∧ before first row = true := by
  have : Std.Total (fun a b => before a b = true) := ⟨total⟩
  have : IsTrans ρ (fun a b => before a b = true) := ⟨trans⟩
  have listed : row ∈ (table.rows.filter wanted).insertionSort (fun a b => before a b = true) := by
    rw [List.mem_insertionSort]
    exact List.mem_filter.mpr ⟨member, passes⟩
  have sorted := List.pairwise_insertionSort (fun a b => before a b = true)
    (table.rows.filter wanted)
  rw [select]
  cases ordered : (table.rows.filter wanted).insertionSort (fun a b => before a b = true) with
  | nil =>
    rw [ordered] at listed
    cases listed
  | cons first rest =>
    rw [ordered] at listed sorted
    refine ⟨first, rfl, ?_⟩
    rcases List.mem_cons.mp listed with rfl | later
    · exact (total row row).elim id id
    · exact List.rel_of_pairwise_cons sorted later

end Table

end RlmApi
