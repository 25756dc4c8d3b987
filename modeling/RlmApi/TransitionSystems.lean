import Mathlib.Logic.Relation

/-!
# Runs of transition systems

A run is a finite sequence of steps, the reflexive transitive closure of a step
relation. An invariant is shown for one step and had for every run; likewise a
preorder that contains every step contains every run, and a system whose steps are
matched by runs of another is matched over its runs. A partial function that computes
steps from labels can be replayed, which is how concrete runs are built.
-/

namespace RlmApi

variable {σ ι : Type}

/-- Finitely many steps. -/
abbrev Runs (step : σ → σ → Prop) : σ → σ → Prop := Relation.ReflTransGen step

namespace Runs

variable {step : σ → σ → Prop} {start last : σ}

/-- What every step keeps, every run keeps. -/
theorem keeps {holds : σ → Prop} (run : Runs step start last)
    (kept : ∀ before after, holds before → step before after → holds after)
    (initially : holds start) : holds last := by
  induction run with
  | refl => exact initially
  | tail _ taken inductionHypothesis => exact kept _ _ inductionHypothesis taken

/-- A preorder that relates the two ends of every step from an invariant state
relates the two ends of every run. -/
theorem relates {holds : σ → Prop} {related : σ → σ → Prop} (run : Runs step start last)
    (kept : ∀ before after, holds before → step before after → holds after)
    (initially : holds start) (same : ∀ state, related state state)
    (trans : ∀ {first second third}, related first second → related second third →
      related first third)
    (one : ∀ before after, holds before → step before after → related before after) :
    related start last := by
  induction run with
  | refl => exact same start
  | tail earlier taken inductionHypothesis =>
    exact trans inductionHypothesis (one _ _ (Runs.keeps earlier kept initially) taken)

/-- If every step of one system is matched by a run of another, every run is. -/
theorem simulated {τ : Type} {matching : τ → τ → Prop} {related : σ → τ → Prop} {first : τ}
    (run : Runs step start last)
    (matched : ∀ before after state, related before state → step before after →
      ∃ state', Runs matching state state' ∧ related after state')
    (initially : related start first) :
    ∃ state, Runs matching first state ∧ related last state := by
  induction run with
  | refl => exact ⟨first, .refl, initially⟩
  | tail _ taken inductionHypothesis =>
    obtain ⟨middle, early, between⟩ := inductionHypothesis
    obtain ⟨state, late, finally_⟩ := matched _ _ _ between taken
    exact ⟨state, early.trans late, finally_⟩

end Runs

/-- Take the steps that a list of labels computes. -/
def replay (next : ι → σ → Option σ) : List ι → σ → Option σ
  | [], state => some state
  | label :: rest, state => (next label state).bind (replay next rest)

/-- A replay of computed steps is a run. -/
theorem runs_of_replay {step : σ → σ → Prop} {next : ι → σ → Option σ}
    (sound : ∀ label before after, next label before = some after → step before after)
    {labels : List ι} {start last : σ} (replayed : replay next labels start = some last) :
    Runs step start last := by
  induction labels generalizing start with
  | nil =>
    rw [show start = last from Option.some.inj replayed]
  | cons label rest inductionHypothesis =>
    obtain ⟨middle, taken, remaining⟩ := Option.bind_eq_some_iff.mp replayed
    exact .head (sound _ _ _ taken) (inductionHypothesis remaining)

end RlmApi
