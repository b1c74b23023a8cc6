import FittingSchlongs.Refresh.Queue

/-! # What ends the validity of a queued task

A call of the queue keeps the guard of an older task true unless it invalidates or asks for
the same actor again, and nothing makes a guard that has failed succeed. A request without
the task interface adds no task and ends the older one all the same.
-/

namespace FittingSchlongs.Refresh
open Armor

section Requests

variable {Counter : Type} [OfNat Counter 0] [OfNat Counter 1] [Add Counter]

/-- The task a request of the actor adds now. -/
def RefreshQueue.nextTask (queue : RefreshQueue Counter) (actorFormID : FormID) :
    RefreshTask Counter :=
  ⟨actorFormID, queue.refreshGeneration, queue.nextActorGeneration actorFormID⟩

theorem queueRefreshFor_cases (taskInterface : Bool) (queue : RefreshQueue Counter) {actor : Actor}
    (hid : actor.formID ≠ 0) :
    queueRefreshFor taskInterface queue (some actor) =
      { refreshGeneration := queue.refreshGeneration
        actorRefreshGeneration := Function.update queue.actorRefreshGeneration actor.formID
          (some (queue.nextActorGeneration actor.formID))
        tasks := if taskInterface then queue.tasks ++ [queue.nextTask actor.formID]
          else queue.tasks } := by
  have hid' : ¬actor.formID = 0#32 := hid
  cases taskInterface <;>
    simp [queueRefreshFor, queueActorRefreshGeneration, addTask, RefreshQueue.nextTask, hid']

theorem queueRefreshFor_ignored {taskInterface : Bool} {queue : RefreshQueue Counter}
    {actor : Option Actor} (h : ∀ x ∈ actor, x.formID = 0) :
    queueRefreshFor taskInterface queue actor = queue := by
  cases actor with
  | none => rfl
  | some actor => simp [queueRefreshFor, h actor rfl]

end Requests

/-- No task is ahead of the counters. -/
structure NoneAhead (queue : RefreshQueue ℕ) : Prop where
  generation_le : ∀ task ∈ queue.tasks, task.generation ≤ queue.refreshGeneration
  /-- Within the current generation the actor's number bounds those of its tasks. -/
  number_le : ∀ task ∈ queue.tasks, task.generation = queue.refreshGeneration →
    ∃ n, queue.actorRefreshGeneration task.actorFormID = some n ∧ task.actorGeneration ≤ n

theorem noneAhead_empty : NoneAhead .empty where
  generation_le _ h := absurd h List.not_mem_nil
  number_le _ h := absurd h List.not_mem_nil

section Step

variable {queue : RefreshQueue ℕ}

theorem NoneAhead.lt_next (h : NoneAhead queue) {task : RefreshTask ℕ} (htask : task ∈ queue.tasks)
    (hcurrent : task.generation = queue.refreshGeneration) :
    task.actorGeneration < queue.nextActorGeneration task.actorFormID := by
  obtain ⟨n, hn, hle⟩ := h.number_le task htask hcurrent
  simp only [RefreshQueue.nextActorGeneration, hn, Option.getD_some]
  omega

theorem NoneAhead.queueRefreshFor (h : NoneAhead queue) (taskInterface : Bool)
    (actor : Option Actor) : NoneAhead (queueRefreshFor taskInterface queue actor) := by
  by_cases hactor : ∀ x ∈ actor, x.formID = 0
  · rwa [queueRefreshFor_ignored hactor]
  push Not at hactor
  obtain ⟨actor, rfl, hid⟩ := hactor
  rw [queueRefreshFor_cases taskInterface queue hid]
  have hcases : ∀ task ∈ (if taskInterface then queue.tasks ++ [queue.nextTask actor.formID]
      else queue.tasks), task ∈ queue.tasks ∨ task = queue.nextTask actor.formID := by
    intro task htask
    split_ifs at htask
    · simpa using htask
    · exact Or.inl htask
  constructor
  case generation_le =>
    intro task htask
    cases hcases task htask with
    | inl hold => exact h.generation_le task hold
    | inr hnew => rw [hnew]; exact le_refl _
  case number_le =>
    intro task htask hcurrent
    cases hcases task htask with
    | inl hold =>
      by_cases hactor : task.actorFormID = actor.formID
      · have hlt := h.lt_next hold hcurrent
        rw [hactor] at hlt
        exact ⟨_, by simp [hactor], hlt.le⟩
      · obtain ⟨n, hn, hle⟩ := h.number_le task hold hcurrent
        exact ⟨n, by simp [hactor, hn], hle⟩
    | inr hnew =>
      rw [hnew]
      exact ⟨_, by simp [RefreshQueue.nextTask], le_refl _⟩

theorem NoneAhead.invalidateQueuedRefreshes (h : NoneAhead queue) :
    NoneAhead (invalidateQueuedRefreshes queue) where
  generation_le task htask := Nat.le_succ_of_le (h.generation_le task htask)
  number_le task htask hcurrent := by
    have hle := h.generation_le task htask
    have hraised : task.generation = queue.refreshGeneration + 1 := hcurrent
    omega

theorem taskPasses_invalidateQueuedRefreshes (task : RefreshTask ℕ) :
    taskPasses (invalidateQueuedRefreshes queue) task = false := by
  simp [taskPasses, isLatestActorRefreshGeneration, invalidateQueuedRefreshes,
    clearQueuedActorRefreshes]

/-- A request ends the older task of the same actor and no other. -/
theorem taskPasses_queueRefreshFor_iff (h : NoneAhead queue) (taskInterface : Bool)
    (actor : Option Actor) {task : RefreshTask ℕ} (htask : task ∈ queue.tasks) :
    taskPasses (queueRefreshFor taskInterface queue actor) task = true ↔
      taskPasses queue task = true ∧
        ∀ x ∈ actor, x.formID ≠ 0 → x.formID ≠ task.actorFormID := by
  by_cases hactor : ∀ x ∈ actor, x.formID = 0
  · rw [queueRefreshFor_ignored hactor]
    exact (and_iff_left fun x hx hid => absurd (hactor x hx) hid).symm
  push Not at hactor
  obtain ⟨actor, rfl, hid⟩ := hactor
  rw [queueRefreshFor_cases taskInterface queue hid, taskPasses_iff, taskPasses_iff]
  by_cases hsame : task.actorFormID = actor.formID
  · refine iff_of_false ?_ fun hkept => hkept.2 actor rfl hid hsame.symm
    rintro ⟨hcurrent, hnumber⟩
    have hlt := h.lt_next htask hcurrent
    rw [hsame] at hlt hnumber
    simp only [Function.update_self, Option.some.injEq] at hnumber
    omega
  · simp [hsame, Ne.symm hsame]

theorem taskPasses_nextTask {actor : Actor} (hid : actor.formID ≠ 0) (taskInterface : Bool) :
    taskPasses (queueRefreshFor taskInterface queue (some actor))
      (queue.nextTask actor.formID) = true := by
  rw [queueRefreshFor_cases taskInterface queue hid, taskPasses_iff]
  simp [RefreshQueue.nextTask]

end Step

end FittingSchlongs.Refresh
