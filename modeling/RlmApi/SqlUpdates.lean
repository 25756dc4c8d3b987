/-!
# Conditions and updates of SQL

A condition is true, false or unknown, and a statement applies to the rows where its
condition is true. `NULL` is `none`: a comparison with it is unknown, and only
`IS NULL` tells it apart.

An `UPDATE` changes rows one at a time. Rows to which no condition of a script applies
are those that the script leaves as they are.
-/

namespace RlmApi.Sql

/-- `none` is unknown. -/
abbrev Truth := Option Bool

/-- A row is selected where its condition is true. -/
abbrev Selects (truth : Truth) : Prop := truth = some true

/-- `p AND q`. -/
def conj : Truth → Truth → Truth
  | some false, _ => some false
  | _, some false => some false
  | some true, some true => some true
  | _, _ => none

/-- `p OR q`. -/
def disj : Truth → Truth → Truth
  | some true, _ => some true
  | _, some true => some true
  | some false, some false => some false
  | _, _ => none

theorem selects_conj_iff (p q : Truth) : Selects (conj p q) ↔ Selects p ∧ Selects q := by
  rcases p with _ | _ | _ <;> rcases q with _ | _ | _ <;> simp [conj]

theorem selects_disj_iff (p q : Truth) : Selects (disj p q) ↔ Selects p ∨ Selects q := by
  rcases p with _ | _ | _ <;> rcases q with _ | _ | _ <;> simp [disj]

section Values

variable {α : Type}

/-- `value IS NULL`. -/
def isNull (value : Option α) : Truth := some value.isNone

/-- `value IS NOT NULL`. -/
def isNotNull (value : Option α) : Truth := some value.isSome

theorem selects_isNull_iff (value : Option α) : Selects (isNull value) ↔ value = none := by
  simp [isNull]

theorem selects_isNotNull_iff (value : Option α) :
    Selects (isNotNull value) ↔ ∃ stored, value = some stored := by
  simp [isNotNull, Option.isSome_iff_exists]

variable [DecidableEq α]

/-- `left = right`. -/
def equals (left right : Option α) : Truth :=
  match left, right with
  | some left, some right => some (decide (left = right))
  | _, _ => none

/-- `value IN (…)` over a list of constants. -/
def isIn (value : Option α) (constants : List α) : Truth :=
  value.map (fun value => decide (value ∈ constants))

/-- `NULLIF(value, constant)`. -/
def nullIf (value : Option α) (constant : α) : Option α :=
  if Selects (equals value (some constant)) then none else value

theorem selects_equals_iff (value : Option α) (constant : α) :
    Selects (equals value (some constant)) ↔ value = some constant := by
  cases value <;> simp [equals]

theorem selects_isIn_iff (value : α) (constants : List α) :
    Selects (isIn (some value) constants) ↔ value ∈ constants := by
  simp [isIn]

/-- `NULLIF` keeps the values other than the constant. -/
theorem nullIf_eq_some_iff (value : Option α) (constant stored : α) :
    nullIf value constant = some stored ↔ value = some stored ∧ stored ≠ constant := by
  simp only [nullIf, selects_equals_iff]
  constructor
  · intro kept
    split at kept
    · cases kept
    · next other => exact ⟨kept, fun same => other (same ▸ kept)⟩
  · rintro ⟨rfl, other⟩
    exact if_neg (fun same => other (Option.some.inj same))

end Values

section Updates

variable {ρ : Type}

/-- `UPDATE … SET … WHERE condition`, on one row. -/
def updateRow (condition : ρ → Truth) (set : ρ → ρ) (row : ρ) : ρ :=
  if Selects (condition row) then set row else row

/-- `UPDATE … SET … WHERE condition`. -/
def update (condition : ρ → Truth) (set : ρ → ρ) (rows : List ρ) : List ρ :=
  rows.map (updateRow condition set)

theorem updateRow_selected {condition : ρ → Truth} {set : ρ → ρ} {row : ρ}
    (selected : Selects (condition row)) : updateRow condition set row = set row :=
  if_pos selected

theorem updateRow_skipped {condition : ρ → Truth} {set : ρ → ρ} {row : ρ}
    (skipped : ¬ Selects (condition row)) : updateRow condition set row = row :=
  if_neg skipped

/-- An update that selects no row changes nothing. -/
theorem update_eq_self {condition : ρ → Truth} {set : ρ → ρ} {rows : List ρ}
    (skipped : ∀ row ∈ rows, ¬ Selects (condition row)) : update condition set rows = rows :=
  (List.map_congr_left fun row member => updateRow_skipped (skipped row member)).trans
    (List.map_id rows)

end Updates

end RlmApi.Sql
