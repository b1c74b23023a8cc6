import FittingSchlongs.Refresh.Superseding

/-! # One slot for each actor

Whatever drives the queue does it in steps of one form: an invalidation or none, and then a
request or none. The counters keep one slot for each actor, the position of its latest task
since the last invalidation. A task passes its guard exactly when it is in its actor's slot,
although the actor numbers restart after every invalidation.
-/

namespace FittingSchlongs.Refresh
open Armor

/-! ## Effects on the queue -/

/-- An invalidation or none, and then a request or none. -/
structure QueueEffect where
  invalidates : Bool
  request : Option Actor
  taskInterface : Bool

namespace QueueEffect

variable (effect : QueueEffect)

def apply (queue : RefreshQueue ℕ) : RefreshQueue ℕ :=
  queueRefreshFor effect.taskInterface
    (if effect.invalidates then invalidateQueuedRefreshes queue else queue) effect.request

/-- The actor whose refresh is asked for. -/
def asked : Option FormID := (effect.request.map Actor.formID).filter (fun a => a ≠ 0)

/-- The effect ends the validity of the actor's queued tasks. -/
def Supersedes (a : FormID) : Prop := effect.invalidates = true ∨ effect.asked = some a

variable {effect}

theorem asked_eq_some_iff {a : FormID} :
    effect.asked = some a ↔ ∃ actor ∈ effect.request, actor.formID ≠ 0 ∧ actor.formID = a := by
  rw [asked]
  cases effect.request with
  | none => simp
  | some actor =>
    simp only [Option.map_some, Option.filter_eq_some_iff, Option.some.injEq, Option.mem_def,
      decide_eq_true_eq, exists_eq_left']
    exact ⟨fun h => ⟨h.1 ▸ h.2, h.1⟩, fun h => ⟨h.2, h.2 ▸ h.1⟩⟩

theorem tasks_apply (queue : RefreshQueue ℕ) {a : FormID} (hasked : effect.asked = some a) :
    (effect.apply queue).tasks = if effect.taskInterface then
      queue.tasks ++ [(if effect.invalidates then Refresh.invalidateQueuedRefreshes queue
        else queue).nextTask a] else queue.tasks := by
  obtain ⟨actor, hactor, hid, rfl⟩ := asked_eq_some_iff.mp hasked
  rw [apply, Option.mem_def.mp hactor, queueRefreshFor_cases _ _ hid]
  cases effect.invalidates <;> rfl

theorem apply_of_asked_none (queue : RefreshQueue ℕ) (hasked : effect.asked = none) :
    effect.apply queue =
      if effect.invalidates then Refresh.invalidateQueuedRefreshes queue else queue := by
  refine queueRefreshFor_ignored fun actor hactor => ?_
  by_contra hid
  exact absurd (asked_eq_some_iff.mpr ⟨actor, hactor, hid, rfl⟩) (by simp [hasked])

theorem advances_apply (effect : QueueEffect) (queue : RefreshQueue ℕ) :
    Advances queue (effect.apply queue) := by
  refine Advances.trans ?_ (advances_queueRefreshFor _ _ _)
  split_ifs
  · exact advances_invalidateQueuedRefreshes queue
  · exact .refl queue

theorem generation_lt_apply (hinvalidates : effect.invalidates = true) (queue : RefreshQueue ℕ) :
    queue.refreshGeneration < (effect.apply queue).refreshGeneration := by
  rw [apply, if_pos hinvalidates]
  exact (generation_lt_invalidateQueuedRefreshes queue).trans_le
    (advances_queueRefreshFor _ _ _).generation_le

end QueueEffect

/-! ## Slots -/

/-- The number of tasks so far and, for each actor, the position of its latest one that nothing
has ended. -/
structure Slots where
  requests : ℕ
  latest : FormID → Option ℕ

namespace Slots

def initial : Slots := ⟨0, fun _ => none⟩

def clear (slots : Slots) : Slots := { slots with latest := fun _ => none }

/-- Without the task interface the slot is left empty. -/
def request (slots : Slots) (taskInterface : Bool) (a : FormID) : Slots :=
  if taskInterface then ⟨slots.requests + 1, Function.update slots.latest a (some slots.requests)⟩
  else { slots with latest := Function.update slots.latest a none }

def step (slots : Slots) (effect : QueueEffect) : Slots :=
  let slots := if effect.invalidates then slots.clear else slots
  effect.asked.elim slots (slots.request effect.taskInterface)

variable {slots : Slots} {effect : QueueEffect} {a : FormID} {k : ℕ}

theorem requests_le_step : slots.requests ≤ (slots.step effect).requests := by
  rw [step]
  cases effect.asked <;> cases effect.invalidates <;> cases effect.taskInterface <;>
    simp [request, clear]

theorem latest_step_asked (hasked : effect.asked = some a) (htask : effect.taskInterface = true) :
    (slots.step effect).latest a = some slots.requests := by
  rw [step, hasked, htask]
  cases effect.invalidates <;> simp [request, clear]

theorem latest_step_of_not_supersedes (h : ¬effect.Supersedes a) :
    (slots.step effect).latest a = slots.latest a := by
  obtain ⟨hinvalidates, hasked⟩ := not_or.mp h
  rw [step, if_neg hinvalidates]
  cases hother : effect.asked with
  | none => rfl
  | some b =>
    have hne : a ≠ b := fun heq => hasked (heq ▸ hother)
    cases effect.taskInterface <;> simp [request, hne]

theorem latest_step_of_supersedes (h : effect.Supersedes a) (hk : k < slots.requests) :
    (slots.step effect).latest a ≠ some k := by
  rw [step]
  rcases h with hinvalidates | hasked
  · rw [if_pos hinvalidates]
    cases effect.asked with
    | none => simp [clear]
    | some b =>
      by_cases hb : a = b
      · cases effect.taskInterface <;> simp [request, clear, hb, hk.ne']
      · cases effect.taskInterface <;> simp [request, clear, hb]
  · rw [hasked]
    cases effect.taskInterface <;> cases effect.invalidates <;> simp [request, clear, hk.ne']

theorem latest_foldl_ne (hk : k < slots.requests) (h : slots.latest a ≠ some k)
    (effects : List QueueEffect) : (effects.foldl step slots).latest a ≠ some k := by
  induction effects generalizing slots with
  | nil => exact h
  | cons effect effects ih =>
    apply ih (hk.trans_le requests_le_step)
    by_cases heffect : effect.Supersedes a
    · exact latest_step_of_supersedes heffect hk
    · rwa [latest_step_of_not_supersedes heffect]

/-- A task stays in its slot exactly until an effect supersedes it. -/
theorem latest_foldl_iff (hk : k < slots.requests) (h : slots.latest a = some k)
    (effects : List QueueEffect) :
    (effects.foldl step slots).latest a = some k ↔ ∀ effect ∈ effects, ¬effect.Supersedes a := by
  induction effects generalizing slots with
  | nil => simp [h]
  | cons effect effects ih =>
    rw [List.foldl_cons, List.forall_mem_cons]
    have hk' : k < (slots.step effect).requests := hk.trans_le requests_le_step
    by_cases heffect : effect.Supersedes a
    · simp [heffect, latest_foldl_ne hk' (latest_step_of_supersedes heffect hk) effects]
    · simp [heffect, ih hk' ((latest_step_of_not_supersedes heffect).trans h)]

end Slots

/-! ## The counters keep the slots -/

/-- The queue's counters say which task is in its actor's slot. -/
structure Refines (slots : Slots) (queue : RefreshQueue ℕ) : Prop where
  requests : queue.tasks.length = slots.requests
  noneAhead : NoneAhead queue
  passes_iff : ∀ k task, queue.tasks[k]? = some task →
    (taskPasses queue task = true ↔ slots.latest task.actorFormID = some k)

theorem getElem?_concat_eq_some_iff {α : Type*} {l : List α} {x y : α} {k : ℕ} :
    (l ++ [x])[k]? = some y ↔ l[k]? = some y ∨ k = l.length ∧ y = x := by
  by_cases hk : k < l.length
  · rw [List.getElem?_append_left hk]
    simp [hk.ne]
  · have hnone : l[k]? = none := List.getElem?_eq_none (by omega)
    rw [hnone, List.getElem?_append_right (by omega)]
    by_cases hlast : k = l.length
    · simp [hlast, eq_comm]
    · have hbeyond : [x][k - l.length]? = none := List.getElem?_eq_none (by simp; omega)
      simp [hbeyond, hlast]

theorem refines_initial : Refines .initial .empty where
  requests := rfl
  noneAhead := noneAhead_empty
  passes_iff k task h := by simp [RefreshQueue.empty] at h

section Preservation

variable {slots : Slots} {queue : RefreshQueue ℕ}

theorem Refines.clear (h : Refines slots queue) :
    Refines slots.clear (invalidateQueuedRefreshes queue) where
  requests := h.requests
  noneAhead := h.noneAhead.invalidateQueuedRefreshes
  passes_iff k task _ := by simp [taskPasses_invalidateQueuedRefreshes, Slots.clear]

theorem Refines.older_passes_iff (h : Refines slots queue) (taskInterface : Bool) {actor : Actor}
    (hid : actor.formID ≠ 0) {k : ℕ} {task : RefreshTask ℕ} (htask : queue.tasks[k]? = some task) :
    taskPasses (queueRefreshFor taskInterface queue (some actor)) task = true ↔
      (slots.request taskInterface actor.formID).latest task.actorFormID = some k := by
  have hk := (List.getElem?_eq_some_iff.mp htask).1
  rw [h.requests] at hk
  rw [taskPasses_queueRefreshFor_iff h.noneAhead _ _ (List.mem_of_getElem? htask),
    h.passes_iff k task htask]
  have hid' : ¬actor.formID = 0#32 := hid
  by_cases hsame : task.actorFormID = actor.formID
  · cases taskInterface <;> simp [Slots.request, hsame, hid', hk.ne']
  · cases taskInterface <;> simp [Slots.request, hsame, Ne.symm hsame]

theorem Refines.request (h : Refines slots queue) (taskInterface : Bool) {actor : Actor}
    (hid : actor.formID ≠ 0) :
    Refines (slots.request taskInterface actor.formID)
      (queueRefreshFor taskInterface queue (some actor)) where
  requests := by
    rw [queueRefreshFor_cases taskInterface queue hid]
    cases taskInterface <;> simp [Slots.request, h.requests]
  noneAhead := h.noneAhead.queueRefreshFor taskInterface (some actor)
  passes_iff k task htask := by
    cases taskInterface with
    | false =>
      rw [queueRefreshFor_cases false queue hid] at htask
      exact h.older_passes_iff false hid htask
    | true =>
      have htasks : (queueRefreshFor true queue (some actor)).tasks =
          queue.tasks ++ [queue.nextTask actor.formID] := by
        rw [queueRefreshFor_cases true queue hid]
        rfl
      rw [htasks] at htask
      rcases getElem?_concat_eq_some_iff.mp htask with hold | ⟨rfl, rfl⟩
      · exact h.older_passes_iff true hid hold
      · rw [taskPasses_nextTask hid true]
        simp [Slots.request, RefreshQueue.nextTask, h.requests]

theorem Refines.step (h : Refines slots queue) (effect : QueueEffect) :
    Refines (slots.step effect) (effect.apply queue) := by
  have hcleared : Refines (if effect.invalidates then slots.clear else slots)
      (if effect.invalidates then invalidateQueuedRefreshes queue else queue) := by
    split_ifs
    · exact h.clear
    · exact h
  cases hasked : effect.asked with
  | none =>
    rw [QueueEffect.apply_of_asked_none queue hasked, Slots.step, hasked]
    exact hcleared
  | some a =>
    obtain ⟨actor, hactor, hid, rfl⟩ := QueueEffect.asked_eq_some_iff.mp hasked
    rw [QueueEffect.apply, Option.mem_def.mp hactor, Slots.step, hasked]
    exact hcleared.request effect.taskInterface hid

/-- No two tasks of one actor pass. -/
theorem Refines.unique (h : Refines slots queue) {j k : ℕ} {task task' : RefreshTask ℕ}
    (hj : queue.tasks[j]? = some task) (hk : queue.tasks[k]? = some task')
    (hsame : task.actorFormID = task'.actorFormID) (hpasses : taskPasses queue task = true)
    (hpasses' : taskPasses queue task' = true) : j = k := by
  have hlatest := (h.passes_iff j task hj).mp hpasses
  rw [hsame, (h.passes_iff k task' hk).mp hpasses'] at hlatest
  exact (Option.some.inj hlatest).symm

end Preservation

end FittingSchlongs.Refresh
