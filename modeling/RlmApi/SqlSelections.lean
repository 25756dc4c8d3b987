import Mathlib.Data.List.Nodup
import Mathlib.Data.List.Pairwise

/-!
# Orders, limits and outer joins of SQL

An `ORDER BY` fixes the order of rows only up to ties, and a query without one fixes
nothing. A permitted order is therefore a relation: the rows of the query, in some order
that the comparison allows. A `LIMIT` keeps a prefix of whichever order there is, and
`row_number()` counts along it.

The rows joined by a full outer join have a key, which no row shares with another of its
side. The key of a joined row then says what each side contributes.
-/

namespace RlmApi.Sql

section Orders

variable {α κ : Type} {before : α → α → Prop} {rows out : List α}

/-- What `ORDER BY` may make of the rows. -/
structure OrderedBy (before : α → α → Prop) (rows out : List α) : Prop where
  perm : out.Perm rows
  sorted : out.Pairwise before

/-- Each row with its `row_number()`. -/
def numbered (rows : List α) : List (α × Nat) := rows.zipIdx 1

theorem numbered_fst (rows : List α) : (numbered rows).map Prod.fst = rows :=
  List.zipIdx_map_fst 1 rows

/-- A prefix of rows with different keys has different keys. -/
theorem keys_take {key : α → κ} (same : out.Perm rows) (distinct : (rows.map key).Nodup)
    (limit : Nat) : ((out.take limit).map key).Nodup :=
  (((same.map key).nodup_iff).mpr distinct).sublist ((List.take_sublist limit out).map key)

/-- Whatever a limit cuts off comes after everything that it keeps. -/
theorem OrderedBy.before_cut (ordered : OrderedBy before rows out) {limit : Nat} {kept cut : α}
    (listed : cut ∈ rows) (left : cut ∉ out.take limit) (member : kept ∈ out.take limit) :
    before kept cut := by
  have sorted := ordered.sorted
  have found : cut ∈ out := ordered.perm.mem_iff.mpr listed
  rw [← List.take_append_drop limit out] at sorted found
  have rest : cut ∈ out.drop limit := (List.mem_append.mp found).resolve_left left
  exact (List.pairwise_append.mp sorted).2.2 kept member cut rest

end Orders

section Joins

variable {κ α γ : Type} [BEq κ] [LawfulBEq κ]

/-- A key has the value that is listed with it. -/
theorem lookup_eq_some_iff_mem {entries : List (κ × α)} (distinct : (entries.map Prod.fst).Nodup)
    {k : κ} {value : α} : entries.lookup k = some value ↔ (k, value) ∈ entries := by
  induction entries with
  | nil => simp
  | cons entry rest inductionHypothesis =>
    obtain ⟨name, stored⟩ := entry
    rw [List.map_cons, List.nodup_cons] at distinct
    by_cases same : k = name
    · have absent : (name, value) ∉ rest := fun member =>
        distinct.1 (List.mem_map.mpr ⟨_, member, rfl⟩)
      simp [same, absent, eq_comm]
    · have different : (k == name) = false := beq_eq_false_iff_ne.mpr same
      rw [List.lookup_cons, different]
      simp [same, inductionHypothesis distinct.2]

/-- `left FULL OUTER JOIN right USING (key)`. -/
def fullOuterJoin (left : List (κ × α)) (right : List (κ × γ)) :
    List (κ × Option α × Option γ) :=
  left.map (fun entry => (entry.1, some entry.2, right.lookup entry.1)) ++
    (right.filter (fun entry => (left.lookup entry.1).isNone)).map
      (fun entry => (entry.1, none, some entry.2))

variable {left : List (κ × α)} {right : List (κ × γ)}

/-- The joined rows, by what each side has under the key. -/
theorem mem_fullOuterJoin_iff (distinct : (left.map Prod.fst).Nodup)
    (distinct' : (right.map Prod.fst).Nodup) (k : κ) (first : Option α) (second : Option γ) :
    (k, first, second) ∈ fullOuterJoin left right ↔
      (first = left.lookup k ∧ second = right.lookup k) ∧
        ((∃ value, (k, value) ∈ left) ∨ ∃ value, (k, value) ∈ right) := by
  rw [fullOuterJoin, List.mem_append, List.mem_map, List.mem_map]
  constructor
  · rintro (⟨⟨_, value⟩, member, ⟨⟩⟩ | ⟨⟨_, value⟩, kept, ⟨⟩⟩)
    · exact ⟨⟨((lookup_eq_some_iff_mem distinct).mpr member).symm, rfl⟩, Or.inl ⟨value, member⟩⟩
    · obtain ⟨member, absent⟩ := List.mem_filter.mp kept
      exact ⟨⟨(Option.isNone_iff_eq_none.mp absent).symm,
        ((lookup_eq_some_iff_mem distinct').mpr member).symm⟩, Or.inr ⟨value, member⟩⟩
  · rintro ⟨⟨rfl, rfl⟩, listed⟩
    cases found : left.lookup k with
    | some value => exact Or.inl ⟨(k, value), (lookup_eq_some_iff_mem distinct).mp found, rfl⟩
    | none =>
      rcases listed with ⟨value, member⟩ | ⟨value, member⟩
      · rw [(lookup_eq_some_iff_mem distinct).mpr member] at found
        cases found
      · refine Or.inr ⟨(k, value), List.mem_filter.mpr ⟨member, ?_⟩, ?_⟩
        · exact Option.isNone_iff_eq_none.mpr found
        · rw [(lookup_eq_some_iff_mem distinct').mpr member]

/-- No two joined rows have one key. -/
theorem fullOuterJoin_keys (distinct : (left.map Prod.fst).Nodup)
    (distinct' : (right.map Prod.fst).Nodup) :
    ((fullOuterJoin left right).map Prod.fst).Nodup := by
  have only : ((right.filter (fun entry => (left.lookup entry.1).isNone)).map Prod.fst).Nodup :=
    distinct'.sublist (List.filter_sublist.map Prod.fst)
  have keys : (fullOuterJoin left right).map Prod.fst = left.map Prod.fst ++
      (right.filter (fun entry => (left.lookup entry.1).isNone)).map Prod.fst := by
    simp only [fullOuterJoin, List.map_append, List.map_map]
    rfl
  rw [keys, List.nodup_append]
  refine ⟨distinct, only, ?_⟩
  rintro k inLeft other inRight rfl
  obtain ⟨⟨name, value⟩, member, rfl⟩ := List.mem_map.mp inLeft
  obtain ⟨entry, kept, same⟩ := List.mem_map.mp inRight
  obtain ⟨-, absent⟩ := List.mem_filter.mp kept
  rw [same, (lookup_eq_some_iff_mem distinct).mpr member] at absent
  cases absent

end Joins

end RlmApi.Sql
