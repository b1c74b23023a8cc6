import Mathlib.Tactic

/-! # Loops over a list that may stop early

A loop visits items until one of its rounds stops it. Rounds that do nothing can be
taken out of the loop by taking their items out of the list.
-/

namespace FittingSchlongs.Foundation.StoppableLoop

variable {ι σ ο : Type*}

/-- What the loop does with one item. -/
structure Round (σ ο : Type*) where
  stops : Bool
  output : ο
  state : σ

structure Outcome (ι σ ο : Type*) where
  state : σ
  /-- The item that stopped the loop and the items left behind it. -/
  stoppedAt : Option (ι × List ι)
  /-- The visited items with what their rounds left. -/
  outputs : List (ι × ο)

def run (body : ι → σ → Round σ ο) : List ι → σ → Outcome ι σ ο
  | [], s => ⟨s, none, []⟩
  | x :: xs, s =>
    let round := body x s
    if round.stops then ⟨round.state, some (x, xs), [(x, round.output)]⟩
    else
      let rest := run body xs round.state
      { rest with outputs := (x, round.output) :: rest.outputs }

/-- The outcome as far as the items to keep are concerned. -/
def Outcome.restrict (keep : ι → Bool) (outcome : Outcome ι σ ο) : Outcome ι σ ο where
  state := outcome.state
  stoppedAt := outcome.stoppedAt.map (fun stop => (stop.1, stop.2.filter keep))
  outputs := outcome.outputs.filter (fun visited => keep visited.1)

variable {body body' : ι → σ → Round σ ο} {keep : ι → Bool}

/-- A loop whose rounds pass over some items runs like the loop without these items. -/
theorem run_filter (hkeep : ∀ x s, keep x = true → body' x s = body x s)
    (hskip : ∀ x s, keep x = false → (body' x s).stops = false ∧ (body' x s).state = s)
    (xs : List ι) (s : σ) :
    run body (xs.filter keep) s = (run body' xs s).restrict keep := by
  induction xs generalizing s with
  | nil => rfl
  | cons x xs ih =>
    cases hx : keep x with
    | true =>
      rw [List.filter_cons_of_pos hx, run, run, hkeep x s hx]
      cases hstops : (body x s).stops with
      | true => simp [Outcome.restrict, hx]
      | false => simp [Outcome.restrict, hx, ih]
    | false =>
      obtain ⟨hgo, hsame⟩ := hskip x s hx
      rw [List.filter_cons_of_neg (by simp [hx]), run, ih]
      simp [Outcome.restrict, hx, hgo, hsame]

theorem output_eq {xs : List ι} {s : σ} {x : ι} {o : ο} (h : (x, o) ∈ (run body xs s).outputs) :
    ∃ t, o = (body x t).output := by
  induction xs generalizing s with
  | nil => exact absurd h List.not_mem_nil
  | cons y xs ih =>
    rw [run] at h
    cases hstops : (body y s).stops with
    | true =>
      simp only [hstops, ↓reduceIte, List.mem_singleton, Prod.mk.injEq] at h
      exact ⟨s, by rw [h.1, h.2]⟩
    | false =>
      simp only [hstops, Bool.false_eq_true, ↓reduceIte, List.mem_cons, Prod.mk.injEq] at h
      cases h with
      | inl hhere => exact ⟨s, by rw [hhere.1, hhere.2]⟩
      | inr hlater => exact ih hlater

end FittingSchlongs.Foundation.StoppableLoop
