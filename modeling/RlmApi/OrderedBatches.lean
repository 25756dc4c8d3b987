import Mathlib.Data.Finset.Card
import RlmApi.Footprints

/-!
# Batches from an ordered selection

A query with an `ORDER BY` and a `LIMIT` reads a prefix of the wanted rows in
order. A transaction that rewrites exactly that prefix, so that the rewritten rows
are no longer wanted, leaves the rest of the order behind. `Table.ordered` is the
whole order, `Store.revise` writes one row together with its log entry, and
`ordered_reviseAll` says that a batch consumes the order from its front. Repeated
batches therefore drain the order, and how many it takes is a division.

The order must not tie two wanted rows, which is what makes the prefix unique. The
rows, their keys, the filter and the order are parameters.

`Table.upTo` is the place of one row in the order, as the set of the keys that come
no later. It needs no uniqueness, so it also serves a selection that skips rows.
-/

namespace RlmApi

variable {κ ρ β σ : Type} {key : ρ → κ} {wanted : ρ → Bool} {before : ρ → ρ → Bool}

/-- The comparison of an `ORDER BY`: any two rows are comparable, and it is
transitive. -/
structure Ranks (before : ρ → ρ → Bool) : Prop where
  total : ∀ a b, before a b = true ∨ before b a = true
  trans : ∀ a b c, before a b = true → before b c = true → before a c = true

section Lexicographic

variable {α γ : Type} [LinearOrder α] [LinearOrder γ] {first : ρ → α} {second : ρ → γ}

/-- `ORDER BY first, second` is such a comparison. -/
theorem Ranks.lexicographic (compares : ∀ a b, before a b = true ↔
    first a < first b ∨ first a = first b ∧ second a ≤ second b) : Ranks before := by
  constructor
  · intro a b
    rw [compares, compares]
    rcases lt_trichotomy (first a) (first b) with less | same | more
    · exact Or.inl (Or.inl less)
    · exact (le_total (second a) (second b)).imp (fun le => Or.inr ⟨same, le⟩)
        (fun le => Or.inr ⟨same.symm, le⟩)
    · exact Or.inr (Or.inl more)
  · intro a b c
    rw [compares, compares, compares]
    rintro (less | ⟨same, le⟩) (less' | ⟨same', le'⟩)
    · exact Or.inl (lt_trans less less')
    · exact Or.inl (same' ▸ less)
    · exact Or.inl (same ▸ less')
    · exact Or.inr ⟨same.trans same', le_trans le le'⟩

/-- Two rows tie only when both columns agree. -/
theorem tie_of_lexicographic (compares : ∀ a b, before a b = true ↔
    first a < first b ∨ first a = first b ∧ second a ≤ second b) {a b : ρ}
    (early : before a b = true) (late : before b a = true) :
    first a = first b ∧ second a = second b := by
  rw [compares] at early late
  rcases early with less | ⟨same, le⟩
  · rcases late with more | ⟨same, -⟩
    · exact absurd more (lt_asymm less)
    · exact absurd same.symm (ne_of_lt less)
  · rcases late with more | ⟨-, le'⟩
    · exact absurd same.symm (ne_of_lt more)
    · exact ⟨same, le_antisymm le le'⟩

end Lexicographic

/-- Two sorted lists with the same rows are equal when the order ties no two of
them. -/
theorem Ranks.eq_of_perm {first second : List ρ} (same : first.Perm second)
    (resolved : ∀ a ∈ first, ∀ b ∈ first, before a b = true → before b a = true → a = b)
    (sorted : first.Pairwise (fun a b => before a b = true))
    (sorted' : second.Pairwise (fun a b => before a b = true)) : first = second := by
  refine List.Perm.eq_of_pairwise ?_ sorted sorted' same
  intro a b inFirst inSecond early late
  exact resolved a inFirst b (same.mem_iff.mpr inSecond) early late

namespace Table

/-- All wanted rows in the given order. -/
def ordered (table : Table key) (wanted : ρ → Bool) (before : ρ → ρ → Bool) : List ρ :=
  (table.rows.filter wanted).insertionSort (fun a b => before a b = true)

/-- Nobody else holds a row. -/
def unlocked (_ : κ) : Bool := false

/-- With no row held, a pick reads a prefix of the order. -/
theorem select_unlocked (table : Table key) (wanted : ρ → Bool) (before : ρ → ρ → Bool)
    (limit : Nat) :
    table.select (fun row => wanted row && !unlocked (key row)) before limit =
      (table.ordered wanted before).take limit := by
  simp only [unlocked, Bool.not_false, Bool.and_true]
  rfl

theorem mem_ordered {table : Table key} {row : ρ} :
    row ∈ table.ordered wanted before ↔ row ∈ table.rows ∧ wanted row = true := by
  rw [ordered, List.mem_insertionSort, List.mem_filter]

theorem ordered_sorted (table : Table key) (ranks : Ranks before) :
    (table.ordered wanted before).Pairwise (fun a b => before a b = true) := by
  have : Std.Total (fun a b => before a b = true) := ⟨ranks.total⟩
  have : IsTrans ρ (fun a b => before a b = true) := ⟨ranks.trans⟩
  exact List.pairwise_insertionSort _ _

/-- An ordered row occurs once. -/
theorem ordered_distinct (table : Table key) :
    ((table.ordered wanted before).map key).Nodup := by
  have filtered : ((table.rows.filter wanted).map key).Nodup :=
    table.distinct.sublist (List.filter_sublist.map key)
  exact ((List.perm_insertionSort _ _).map key).nodup_iff.mpr filtered

/-- The order ties no two wanted rows. -/
def Resolved (table : Table key) (wanted : ρ → Bool) (before : ρ → ρ → Bool) : Prop :=
  ∀ a ∈ table.rows, ∀ b ∈ table.rows, wanted a = true → wanted b = true →
    before a b = true → before b a = true → a = b

/-- An order that ends with the primary key has no ties. -/
theorem resolved_of_key (table : Table key)
    (ends : ∀ a b, before a b = true → before b a = true → key a = key b) :
    table.Resolved wanted before := fun a inFirst b inSecond _ _ early late =>
  List.inj_on_of_nodup_map table.distinct inFirst inSecond (ends a b early late)

/-- Tables with the same wanted rows, however stored, have the same order. -/
theorem ordered_congr {first second : Table key} (ranks : Ranks before)
    (resolved : first.Resolved wanted before)
    (same : ∀ row, wanted row = true → (row ∈ first.rows ↔ row ∈ second.rows)) :
    first.ordered wanted before = second.ordered wanted before := by
  have nodup : ∀ table : Table key, (table.ordered wanted before).Nodup := fun table =>
    List.Nodup.of_map key table.ordered_distinct
  have perm : (first.ordered wanted before).Perm (second.ordered wanted before) := by
    rw [List.perm_ext_iff_of_nodup (nodup first) (nodup second)]
    intro row
    rw [mem_ordered, mem_ordered]
    exact and_congr_left (same row)
  refine Ranks.eq_of_perm perm ?_ (ordered_sorted _ ranks) (ordered_sorted _ ranks)
  intro a inFirst b inSecond early late
  obtain ⟨stored, wants⟩ := mem_ordered.mp inFirst
  obtain ⟨stored', wants'⟩ := mem_ordered.mp inSecond
  exact resolved a stored b stored' wants wants' early late

/-- A selection reads whatever the same selection with a smaller limit reads. -/
theorem select_mono {table : Table key} {few many : Nat} (le : few ≤ many) {row : ρ}
    (member : row ∈ table.select wanted before few) : row ∈ table.select wanted before many :=
  List.take_subset_take_left _ le member

variable [DecidableEq κ]

/-- The second of two writes under one key is the one that counts. -/
theorem put_put (table : Table key) {first second : ρ} (same : key first = key second) :
    (table.put first).put second = table.put second := by
  have rows : ∀ rows : List ρ,
      putRow key second (putRow key first rows) = putRow key second rows := by
    intro rows
    induction rows with
    | nil => simp [putRow, same]
    | cons head rest ih =>
      by_cases replaced : key head = key second <;> simp [putRow, same, replaced, ih]
  simp only [put, rows table.rows]

/-- Writing a row that is not wanted removes its key from the wanted rows. -/
theorem filter_putRow {row : ρ} (unwanted : wanted row = false) {rows : List ρ}
    (distinct : (rows.map key).Nodup) :
    (putRow key row rows).filter wanted =
      (rows.filter wanted).filter (fun other => decide (key other ≠ key row)) := by
  induction rows with
  | nil => simp [putRow, unwanted]
  | cons head rest ih =>
    obtain ⟨fresh, distinctRest⟩ := List.nodup_cons.mp distinct
    by_cases replaced : key head = key row
    · have others : ∀ other ∈ rest.filter wanted, decide (key other ≠ key row) = true := by
        intro other member
        apply decide_eq_true
        intro same
        exact fresh
          ((replaced.trans same.symm) ▸ List.mem_map_of_mem (List.mem_of_mem_filter member))
      have kept : (rest.filter wanted).filter (fun other => decide (key other ≠ key row)) =
          rest.filter wanted := List.filter_eq_self.mpr others
      rw [show putRow key row (head :: rest) = row :: rest by simp [putRow, replaced],
        List.filter_cons_of_neg (by simp [unwanted]), List.filter_cons]
      split
      · rw [List.filter_cons_of_neg (by simp [replaced]), kept]
      · exact kept.symm
    · rw [show putRow key row (head :: rest) = head :: putRow key row rest by
        simp [putRow, replaced], List.filter_cons, List.filter_cons, ih distinctRest]
      split
      · rw [List.filter_cons_of_pos (by simp [replaced])]
      · rfl

/-- Writing a row that is not wanted takes its key out of the order and leaves the
other rows where they stand. -/
theorem ordered_put {table : Table key} (ranks : Ranks before)
    (resolved : table.Resolved wanted before) {row : ρ} (unwanted : wanted row = false) :
    (table.put row).ordered wanted before =
      (table.ordered wanted before).filter (fun other => decide (key other ≠ key row)) := by
  have same : ((table.put row).ordered wanted before).Perm
      ((table.ordered wanted before).filter (fun other => decide (key other ≠ key row))) := by
    refine (List.perm_insertionSort _ _).trans ?_
    rw [show (table.put row).rows = putRow key row table.rows from rfl,
      filter_putRow unwanted table.distinct]
    exact (List.perm_insertionSort _ _).symm.filter _
  refine Ranks.eq_of_perm same ?_ (ordered_sorted _ ranks) ((ordered_sorted _ ranks).filter _)
  intro a inFirst b inSecond early late
  have earlier := mem_ordered.mp (List.mem_of_mem_filter (same.mem_iff.mp inFirst))
  have later := mem_ordered.mp (List.mem_of_mem_filter (same.mem_iff.mp inSecond))
  exact resolved a earlier.1 b later.1 earlier.2 later.2 early late

/-- Writing a row that is not wanted makes no tie. -/
theorem Resolved.put {table : Table key} (resolved : table.Resolved wanted before) {row : ρ}
    (unwanted : wanted row = false) : (table.put row).Resolved wanted before := by
  intro a inFirst b inSecond wantsFirst wantsSecond early late
  have stored : ∀ other ∈ (table.put row).rows, wanted other = true → other ∈ table.rows := by
    intro other member wants
    rcases mem_putRow member with rfl | old
    · rw [unwanted] at wants
      cases wants
    · exact old
  exact resolved a (stored a inFirst wantsFirst) b (stored b inSecond wantsSecond) wantsFirst
    wantsSecond early late

/-- Writing an unwanted version of the first row leaves the rest of the order. -/
theorem ordered_put_head {table : Table key} (ranks : Ranks before)
    (resolved : table.Resolved wanted before) {row first : ρ} {rest : List ρ}
    (order : table.ordered wanted before = first :: rest) (keyed : key row = key first)
    (unwanted : wanted row = false) : (table.put row).ordered wanted before = rest := by
  have distinct : ((table.ordered wanted before).map key).Nodup := table.ordered_distinct
  rw [order, List.map_cons, List.nodup_cons] at distinct
  rw [ordered_put ranks resolved unwanted, order, keyed, List.filter_cons_of_neg (by simp)]
  apply List.filter_eq_self.mpr
  intro other member
  apply decide_eq_true
  intro same
  exact distinct.1 (same ▸ List.mem_map_of_mem member)

/-- The keys of the wanted rows that come no later than a row. -/
def upTo (table : Table key) (wanted : ρ → Bool) (before : ρ → ρ → Bool) (row : ρ) : Finset κ :=
  ((table.rows.filter (fun other => wanted other && before other row)).map key).toFinset

theorem mem_upTo {table : Table key} {row : ρ} {k : κ} :
    k ∈ table.upTo wanted before row ↔
      ∃ other, table.find? k = some other ∧ wanted other = true ∧ before other row = true := by
  simp only [upTo, List.mem_toFinset, List.mem_map, List.mem_filter, Bool.and_eq_true]
  constructor
  · rintro ⟨other, ⟨stored, fits⟩, rfl⟩
    exact ⟨other, find?_of_mem stored, fits⟩
  · rintro ⟨other, found, fits⟩
    exact ⟨other, ⟨find?_mem found, fits⟩, find?_key found⟩

end Table

namespace Store
variable [DecidableEq κ]

/-- Write one version of a row and append one entry to its log. -/
def revise (store : Store key β σ) (revision : ρ × β) : Store key β σ :=
  { store with
    table := store.table.put revision.1
    log := LogEntry.extend store.log (key revision.1) revision.2 }

/-- Revise several rows, one after the other. -/
def reviseAll (store : Store key β σ) (revisions : List (ρ × β)) : Store key β σ :=
  revisions.foldl revise store

variable {store : Store key β σ} {revisions : List (ρ × β)}

@[simp] theorem reviseAll_nil (store : Store key β σ) : store.reviseAll [] = store := rfl

theorem reviseAll_cons (store : Store key β σ) (revision : ρ × β) (rest : List (ρ × β)) :
    store.reviseAll (revision :: rest) = (store.revise revision).reviseAll rest := rfl

@[simp] theorem reviseAll_side (store : Store key β σ) (revisions : List (ρ × β)) :
    (store.reviseAll revisions).side = store.side := by
  induction revisions generalizing store with
  | nil => rfl
  | cons revision rest ih => exact ih _

/-- A key that no revision names keeps its row and its entries. -/
theorem reviseAll_other {k : κ} (outside : ∀ revision ∈ revisions, key revision.1 ≠ k) :
    (store.reviseAll revisions).table.find? k = store.table.find? k ∧
      LogEntry.ofOwner k (store.reviseAll revisions).log = LogEntry.ofOwner k store.log := by
  induction revisions generalizing store with
  | nil => exact ⟨rfl, rfl⟩
  | cons revision rest ih =>
    have apart := outside revision List.mem_cons_self
    have later : ∀ other ∈ rest, key other.1 ≠ k := fun other member =>
      outside other (List.mem_cons_of_mem revision member)
    exact ⟨(ih later).1.trans (Table.find?_put_ne _ apart),
      (ih later).2.trans (LogEntry.ofOwner_extend_ne _ _ apart)⟩

/-- A revised key has the revision's row and one more entry. Induction on the
revisions; the others name other keys. -/
theorem reviseAll_revised (distinct : (revisions.map (fun revision => key revision.1)).Nodup)
    {revision : ρ × β} (member : revision ∈ revisions) :
    (store.reviseAll revisions).table.find? (key revision.1) = some revision.1 ∧
      LogEntry.ofOwner (key revision.1) (store.reviseAll revisions).log =
        LogEntry.ofOwner (key revision.1) store.log ++
          [⟨key revision.1, LogEntry.nextSequence (LogEntry.ofOwner (key revision.1) store.log),
            revision.2⟩] := by
  induction revisions generalizing store with
  | nil => cases member
  | cons first rest ih =>
    obtain ⟨fresh, distinctRest⟩ := List.nodup_cons.mp distinct
    rcases List.mem_cons.mp member with rfl | inRest
    · have kept : ∀ other ∈ rest, key other.1 ≠ key revision.1 := fun other later same =>
        fresh (List.mem_map.mpr ⟨other, later, same⟩)
      exact ⟨(reviseAll_other kept).1.trans (Table.find?_put_self _ _),
        (reviseAll_other kept).2.trans (LogEntry.ofOwner_extend_self _ _ _)⟩
    · have apart : key first.1 ≠ key revision.1 := fun same =>
        fresh (List.mem_map.mpr ⟨revision, inRest, same.symm⟩)
      have own : LogEntry.ofOwner (key revision.1) (store.revise first).log =
          LogEntry.ofOwner (key revision.1) store.log :=
        LogEntry.ofOwner_extend_ne _ _ apart
      rw [← own]
      exact ih distinctRest inRest

/-- The second store holds the revisions of the first, one new entry for each, and
is otherwise the same. -/
structure Revises (store store' : Store key β σ) (revisions : List (ρ × β)) : Prop where
  revised : ∀ revision ∈ revisions,
    store'.table.find? (key revision.1) = some revision.1 ∧
      LogEntry.ofOwner (key revision.1) store'.log =
        LogEntry.ofOwner (key revision.1) store.log ++
          [⟨key revision.1, LogEntry.nextSequence (LogEntry.ofOwner (key revision.1) store.log),
            revision.2⟩]
  kept : ∀ k, (∀ revision ∈ revisions, key revision.1 ≠ k) →
    store'.table.find? k = store.table.find? k ∧
      LogEntry.ofOwner k store'.log = LogEntry.ofOwner k store.log
  side : store'.side = store.side

theorem revises_reviseAll (distinct : (revisions.map (fun revision => key revision.1)).Nodup) :
    store.Revises (store.reviseAll revisions) revisions :=
  ⟨fun _ member => reviseAll_revised distinct member, fun _ outside => reviseAll_other outside,
    reviseAll_side store revisions⟩

/-- A batch of unwanted versions of the first rows consumes them: the order goes
on with the rest, and still ties nothing. -/
theorem ordered_reviseAll (ranks : Ranks before) {done rest : List ρ}
    (resolved : store.table.Resolved wanted before)
    (order : store.table.ordered wanted before = done ++ rest)
    (keyed : revisions.map (fun revision => key revision.1) = done.map key)
    (unwanted : ∀ revision ∈ revisions, wanted revision.1 = false) :
    (store.reviseAll revisions).table.ordered wanted before = rest ∧
      (store.reviseAll revisions).table.Resolved wanted before := by
  induction revisions generalizing store done with
  | nil =>
    obtain rfl : done = [] := List.map_eq_nil_iff.mp keyed.symm
    exact ⟨order, resolved⟩
  | cons revision others ih =>
    cases done with
    | nil => simp at keyed
    | cons first later =>
      simp only [List.map_cons, List.cons.injEq] at keyed
      have fits := unwanted revision List.mem_cons_self
      exact ih (resolved.put fits)
        (Table.ordered_put_head ranks resolved order keyed.1 fits) keyed.2
        (fun other member => unwanted other (List.mem_cons_of_mem revision member))

end Store

/-- Taking `batch` elements at a time exhausts a list after as many rounds as the
quotient, rounded up. -/
theorem drop_rounds_eq_nil_iff {α : Type} (list : List α) {batch : Nat} (positive : 0 < batch)
    (rounds : Nat) :
    list.drop (rounds * batch) = [] ↔ (list.length + batch - 1) / batch ≤ rounds := by
  have quotient : (list.length + batch - 1) / batch < rounds + 1 ↔
      list.length + batch - 1 < (rounds + 1) * batch := Nat.div_lt_iff_lt_mul positive
  rw [Nat.succ_mul] at quotient
  rw [List.drop_eq_nil_iff]
  omega

end RlmApi
