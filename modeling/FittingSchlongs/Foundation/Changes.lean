import Mathlib.Tactic

/-! # How often an observation changes along a run

Each change has to lower a rank that no step raises, so the rank of the first state bounds the
number of changes.
-/

namespace FittingSchlongs.Foundation.Changes

variable {σ ι β : Type*} [DecidableEq β] (step : σ → ι → σ) (obs : σ → β)

/-- The number of steps after which the observation is another than before. -/
def changes : List ι → σ → ℕ
  | [], _ => 0
  | i :: inputs, s => (if obs (step s i) = obs s then 0 else 1) + changes inputs (step s i)

variable {step obs}

theorem obs_of_changes_eq_zero {inputs : List ι} {s : σ} (h : changes step obs inputs s = 0) :
    obs (inputs.foldl step s) = obs s := by
  induction inputs generalizing s with
  | nil => rfl
  | cons i inputs ih =>
    rw [changes, Nat.add_eq_zero_iff] at h
    have hstep : obs (step s i) = obs s := by simpa using h.1
    rw [List.foldl_cons, ih h.2, hstep]

theorem changes_le_rank (inv : σ → Prop) (rank : σ → ℕ) (hkeep : ∀ s i, inv s → inv (step s i))
    (hrank : ∀ s i, inv s → rank (step s i) < rank s ∨
      rank (step s i) = rank s ∧ obs (step s i) = obs s)
    {s : σ} (h : inv s) (inputs : List ι) : changes step obs inputs s ≤ rank s := by
  induction inputs generalizing s with
  | nil => exact Nat.zero_le _
  | cons i inputs ih =>
    have hrest := ih (hkeep s i h)
    rw [changes]
    rcases hrank s i h with hlt | ⟨heq, hobs⟩
    · split_ifs <;> omega
    · rw [if_pos hobs]
      omega

end FittingSchlongs.Foundation.Changes
