import FittingSchlongs.Foundation.History
import FittingSchlongs.Refresh.Slots

/-! # Systems that drive the queue

A system drives the queue if each of its steps has one effect on it and runs one task or none.
Its runs keep the slots, so what becomes of a request is decided by the effects behind it.
-/

namespace FittingSchlongs.Refresh
open Armor Foundation.Transition

variable {σ ε : Type*} {step : σ → ε → Option σ} {queue : σ → RefreshQueue ℕ}
  {executed : σ → List ℕ} {effect : σ → ε → QueueEffect} {ran : ε → Option ℕ}

structure Drives (step : σ → ε → Option σ) (queue : σ → RefreshQueue ℕ) (executed : σ → List ℕ)
    (effect : σ → ε → QueueEffect) (ran : ε → Option ℕ) : Prop where
  queue_step : ∀ {s e t}, step s e = some t → queue t = (effect s e).apply (queue s)
  executed_step : ∀ {s e t}, step s e = some t → executed t = (ran e).toList ++ executed s
  ran_lt : ∀ {s e t k}, step s e = some t → ran e = some k → k < (queue s).tasks.length

namespace Drives

variable (h : Drives step queue executed effect ran) {s t u : σ} {e : ε} {es : List ε} {k : ℕ}
include h

/-! ## Tasks -/

theorem advances_step (hstep : step s e = some t) : Advances (queue s) (queue t) := by
  rw [h.queue_step hstep]
  exact (effect s e).advances_apply (queue s)

theorem advances_run (hrun : runFrom step s es = some t) : Advances (queue s) (queue t) :=
  invariant_of_run (fun _ _ _ hadvances hstep => Advances.trans hadvances (h.advances_step hstep))
    (.refl (queue s)) hrun

theorem executed_lt_step (hs : ∀ k ∈ executed s, k < (queue s).tasks.length)
    (hstep : step s e = some t) : ∀ k ∈ executed t, k < (queue t).tasks.length := by
  intro k hk
  have hle := (h.advances_step hstep).tasks.length_le
  rw [h.executed_step hstep, List.mem_append, Option.mem_toList] at hk
  cases hk with
  | inl hran => exact (h.ran_lt hstep hran).trans_le hle
  | inr hold => exact (hs k hold).trans_le hle

theorem executed_lt_run (hs : ∀ k ∈ executed s, k < (queue s).tasks.length)
    (hrun : runFrom step s es = some t) : ∀ k ∈ executed t, k < (queue t).tasks.length := by
  have hstep : ∀ u e v, (∀ k ∈ executed u, k < (queue u).tasks.length) → step u e = some v →
      ∀ k ∈ executed v, k < (queue v).tasks.length :=
    fun _ _ _ hu hstep => h.executed_lt_step hu hstep
  exact invariant_of_run hstep hs hrun

theorem not_executed_step (hs : ∀ k ∈ executed s, k < (queue s).tasks.length)
    (hstep : step s e = some t) : (queue s).tasks.length ∉ executed t := by
  rw [h.executed_step hstep, List.mem_append, Option.mem_toList]
  rintro (hran | hold)
  · exact Nat.lt_irrefl _ (h.ran_lt hstep hran)
  · exact Nat.lt_irrefl _ (hs _ hold)

theorem exists_ran (hrun : runFrom step s es = some t) (hs : k ∉ executed s)
    (ht : k ∈ executed t) :
    ∃ u e v after, StepIn step s es u e v after ∧ ran e = some k := by
  obtain ⟨u, e, v, after, hin, hu, hv⟩ :=
    exists_beginning (p := fun u => k ∈ executed u) hrun hs ht
  obtain ⟨-, -, -, hstep⟩ := id hin
  rw [h.executed_step hstep, List.mem_append, Option.mem_toList] at hv
  exact ⟨u, e, v, after, hin, hv.resolve_right hu⟩

/-! ## Requests -/

theorem length_step (hstep : step s e = some t) :
    (queue t).tasks.length = (queue s).tasks.length +
      if (effect s e).asked.isSome && (effect s e).taskInterface then 1 else 0 := by
  rw [h.queue_step hstep]
  cases hasked : (effect s e).asked with
  | none =>
    rw [QueueEffect.apply_of_asked_none _ hasked]
    cases (effect s e).invalidates <;> rfl
  | some a =>
    rw [QueueEffect.tasks_apply _ hasked]
    cases (effect s e).taskInterface <;> simp

/-- A task added in a run was asked for by one of its steps. -/
theorem exists_request (hrun : runFrom step s es = some t) (hk : (queue s).tasks.length ≤ k)
    (hk' : k < (queue t).tasks.length) :
    ∃ u e v after a, StepIn step s es u e v after ∧ (queue u).tasks.length = k ∧
      (queue v).tasks.length = k + 1 ∧ (effect u e).asked = some a ∧
      (effect u e).taskInterface = true := by
  obtain ⟨u, e, v, after, hin, hu, hv⟩ := exists_beginning
    (p := fun u => k < (queue u).tasks.length) hrun (Nat.not_lt.mpr hk) hk'
  obtain ⟨-, -, -, hstep⟩ := id hin
  have hlength := h.length_step hstep
  split_ifs at hlength with hadded
  · rw [Bool.and_eq_true, Option.isSome_iff_exists] at hadded
    obtain ⟨⟨a, hasked⟩, htask⟩ := hadded
    exact ⟨u, e, v, after, a, hin, by omega, by omega, hasked, htask⟩
  · omega

/-! ## The slots of a run -/

theorem slots_run {slots : Slots} (hs : Refines slots (queue s))
    (hrun : runFrom step s es = some t) :
    Refines ((observations step (fun u e => some (effect u e)) s es).foldl Slots.step slots)
      (queue t) := by
  induction es generalizing s slots with
  | nil =>
    obtain rfl : s = t := Option.some.inj hrun
    exact hs
  | cons e es ih =>
    obtain ⟨u, hu, hrest⟩ := runFrom_cons_iff.mp hrun
    have hu' := hs.step (effect s e)
    rw [← h.queue_step hu] at hu'
    rw [observations_cons hu]
    exact ih hu' hrest

theorem refines_run (hs : ∃ slots, Refines slots (queue s)) (hrun : runFrom step s es = some t) :
    ∃ slots, Refines slots (queue t) := by
  obtain ⟨slots, hs⟩ := hs
  exact ⟨_, h.slots_run hs hrun⟩

/-- The task of a request passes until an effect supersedes it. -/
theorem request_passes_iff (hs : ∃ slots, Refines slots (queue s)) {a : FormID}
    (hasked : (effect s e).asked = some a) (htask : (effect s e).taskInterface = true)
    (hstep : step s e = some u) (hrun : runFrom step u es = some t) :
    ∃ task, (queue t).tasks[(queue s).tasks.length]? = some task ∧ task.actorFormID = a ∧
      (taskPasses (queue t) task = true ↔
        Along step (fun v f => ¬(effect v f).Supersedes a) u es) := by
  obtain ⟨slots, hs⟩ := hs
  have hu := hs.step (effect s e)
  rw [← h.queue_step hstep] at hu
  -- Right after the request its position is in the slot.
  have hlatest : (slots.step (effect s e)).latest a = some (queue s).tasks.length := by
    rw [hs.requests]
    exact Slots.latest_step_asked hasked htask
  have hlt : (queue s).tasks.length < (slots.step (effect s e)).requests := by
    rw [← hu.requests, h.length_step hstep, hasked, htask]
    exact Nat.lt_succ_self _
  have hadded : ∃ task, (queue u).tasks[(queue s).tasks.length]? = some task ∧
      task.actorFormID = a := by
    rw [h.queue_step hstep, QueueEffect.tasks_apply _ hasked, if_pos htask]
    exact ⟨_, List.getElem?_concat_length, rfl⟩
  obtain ⟨task, hadded, hsame⟩ := hadded
  have hstill := (h.advances_run hrun).getElem? hadded
  refine ⟨task, hstill, hsame, ?_⟩
  rw [(h.slots_run hu hrun).passes_iff _ _ hstill, hsame, Slots.latest_foldl_iff hlt hlatest,
    ← along_iff_observations hrun]
  simp

end Drives

end FittingSchlongs.Refresh
