import Mathlib.Order.WellFounded

/-!
# Progress along unending histories

A history is a sequence of moments without an end, and what is true of it is a
predicate on moments. `LeadsTo` says that whenever one predicate holds another
holds then or later. Two rules produce such facts. A measure rule iterates a stage
that lowers a measure. A rank rule is for a stage that waits: no moment raises the
rank, and some event that recurs forever lowers it, however many other moments lie
in between.

Moments are counted; what happens at them is a parameter.
-/

namespace RlmApi

variable {α : Type} [Preorder α] {first second : Nat → Prop}

/-- Whenever the first predicate holds, the second holds at that moment or later. -/
def LeadsTo (first second : Nat → Prop) : Prop := ∀ n, first n → ∃ later ≥ n, second later

/-- The event happens again after every moment. -/
def Recurs (event : Nat → Prop) : Prop := ∀ n, ∃ later ≥ n, event later

namespace LeadsTo

/-- What every moment keeps, at no greater rank, until the goal is reached. -/
theorem kept_until (rank : Nat → α)
    (kept : ∀ n, first n → second (n + 1) ∨ first (n + 1) ∧ rank (n + 1) ≤ rank n) {n : Nat}
    (holds : first n) {later : Nat} (after : n ≤ later) :
    (∃ reached, n ≤ reached ∧ reached ≤ later ∧ second reached) ∨
      first later ∧ rank later ≤ rank n := by
  induction later, after using Nat.le_induction with
  | base => exact Or.inr ⟨holds, le_refl _⟩
  | succ later after inductionHypothesis =>
    rcases inductionHypothesis with ⟨reached, from_, upTo, ends⟩ | ⟨still, bounded⟩
    · exact Or.inl ⟨reached, from_, Nat.le_succ_of_le upTo, ends⟩
    · rcases kept later still with ends | ⟨next, lower⟩
      · exact Or.inl ⟨later + 1, Nat.le_succ_of_le after, le_refl _, ends⟩
      · exact Or.inr ⟨next, le_trans lower bounded⟩

/-- A stage that keeps itself may be looked at from any moment on. -/
theorem of_settled (start : Nat) (kept : ∀ n, first n → second (n + 1) ∨ first (n + 1))
    (late : LeadsTo (fun n => start ≤ n ∧ first n) second) : LeadsTo first second := by
  intro n holds
  have unranked : ∀ n, first n → second (n + 1) ∨ first (n + 1) ∧ (0 : Nat) ≤ 0 := fun n now =>
    (kept n now).imp_right (fun next => ⟨next, le_refl 0⟩)
  rcases kept_until (fun _ => 0) unranked holds (le_max_left n start) with
    ⟨reached, after, -, ends⟩ | ⟨still, -⟩
  · exact ⟨reached, after, ends⟩
  · obtain ⟨last, beyond, ends⟩ := late _ ⟨le_max_right n start, still⟩
    exact ⟨last, le_trans (le_max_left n start) beyond, ends⟩

variable [WellFoundedLT α]

/-- A stage that ends or starts again with a smaller measure ends. Induction on the
measure at the moment the stage starts. -/
theorem of_measure (measure : Nat → α)
    (stage : ∀ n, first n → ∃ later ≥ n, second later ∨ first later ∧ measure later < measure n) :
    LeadsTo first second := by
  intro n holds
  generalize bound : measure n = value
  induction value using WellFoundedLT.induction generalizing n with
  | ind value inductionHypothesis =>
    obtain ⟨later, after, ends | ⟨again, smaller⟩⟩ := stage n holds
    · exact ⟨later, after, ends⟩
    · obtain ⟨last, beyond, reached⟩ :=
        inductionHypothesis (measure later) (bound ▸ smaller) later again rfl
      exact ⟨last, le_trans after beyond, reached⟩

/-- A stage whose rank no moment raises and a recurring event lowers comes to its
end. Induction on the rank; `kept_until` bridges the moments before the event. -/
theorem of_rank (rank : Nat → α) {helpful : Nat → Prop} (recurs : Recurs helpful)
    (kept : ∀ n, first n → second (n + 1) ∨ first (n + 1) ∧ rank (n + 1) ≤ rank n)
    (helps : ∀ n, first n → helpful n → second (n + 1) ∨ first (n + 1) ∧ rank (n + 1) < rank n) :
    LeadsTo first second := by
  refine of_measure rank (fun n holds => ?_)
  obtain ⟨event, after, happens⟩ := recurs n
  rcases kept_until rank kept holds after with ⟨reached, from_, -, ends⟩ | ⟨still, bounded⟩
  · exact ⟨reached, from_, Or.inl ends⟩
  · have beyond : n ≤ event + 1 := Nat.le_succ_of_le after
    rcases helps event still happens with ends | ⟨next, lower⟩
    · exact ⟨event + 1, beyond, Or.inl ends⟩
    · exact ⟨event + 1, beyond, Or.inr ⟨next, lt_of_lt_of_le lower bounded⟩⟩

end LeadsTo

end RlmApi
