import FittingSchlongs.Armor.Forms
import Mathlib.Logic.Function.Basic

/-! # Queued refreshes

Two counters decide whether a queued refresh still counts: the refresh generation,
which every invalidation raises, and a number for each actor, which every queued
refresh raises and every invalidation forgets. The type of the counters is a parameter:
natural numbers where they do not wrap, 64-bit numbers where they do.
-/

namespace FittingSchlongs.Refresh
open Armor

/-- What the lambda of `QueueRefreshFor` captures. -/
structure RefreshTask (Counter : Type) where
  actorFormID : FormID
  generation : Counter
  actorGeneration : Counter
  deriving DecidableEq

/-- The globals of the refresh queue and every task ever added, in the order of `AddTask`. -/
structure RefreshQueue (Counter : Type) where
  /-- `g_refreshGeneration`. -/
  refreshGeneration : Counter
  /-- `g_actorRefreshGeneration`. -/
  actorRefreshGeneration : FormID → Option Counter
  tasks : List (RefreshTask Counter)

section Counters

variable {Counter : Type} [OfNat Counter 0] [OfNat Counter 1] [Add Counter]

def RefreshQueue.empty : RefreshQueue Counter := ⟨0, fun _ => none, []⟩

/-- The number the next refresh of the actor gets. `operator[]` makes a missing entry 0. -/
def RefreshQueue.nextActorGeneration (queue : RefreshQueue Counter) (actorFormID : FormID) :
    Counter :=
  (queue.actorRefreshGeneration actorFormID).getD 0 + 1

def queueActorRefreshGeneration (queue : RefreshQueue Counter) (actorFormID : FormID) :
    Counter × RefreshQueue Counter :=
  (queue.nextActorGeneration actorFormID,
    { queue with
      actorRefreshGeneration := Function.update queue.actorRefreshGeneration actorFormID
        (some (queue.nextActorGeneration actorFormID)) })

def isLatestActorRefreshGeneration [BEq Counter] (queue : RefreshQueue Counter)
    (actorFormID : FormID) (generation : Counter) : Bool :=
  match queue.actorRefreshGeneration actorFormID with
  | none => false
  | some latest => latest == generation

def clearQueuedActorRefreshes (queue : RefreshQueue Counter) : RefreshQueue Counter :=
  { queue with actorRefreshGeneration := fun _ => none }

def incrementRefreshGeneration (queue : RefreshQueue Counter) : RefreshQueue Counter :=
  { queue with refreshGeneration := queue.refreshGeneration + 1 }

def addTask (queue : RefreshQueue Counter) (task : RefreshTask Counter) : RefreshQueue Counter :=
  { queue with tasks := queue.tasks ++ [task] }

def invalidateQueuedRefreshes (queue : RefreshQueue Counter) : RefreshQueue Counter :=
  clearQueuedActorRefreshes (incrementRefreshGeneration queue)

/-- Without a task interface the actor's number is raised all the same. -/
def queueRefreshFor (taskInterface : Bool) (queue : RefreshQueue Counter) (actor : Option Actor) :
    RefreshQueue Counter :=
  match actor with
  | none => queue
  | some actor =>
    if actor.formID = 0 then queue
    else
      let generation := queue.refreshGeneration
      let (actorGeneration, queue) := queueActorRefreshGeneration queue actor.formID
      if !taskInterface then queue
      else addTask queue ⟨actor.formID, generation, actorGeneration⟩

/-- The guard a task evaluates when it runs. -/
def taskPasses [BEq Counter] (queue : RefreshQueue Counter) (task : RefreshTask Counter) : Bool :=
  queue.refreshGeneration == task.generation &&
    isLatestActorRefreshGeneration queue task.actorFormID task.actorGeneration

end Counters

theorem taskPasses_iff {Counter : Type} [BEq Counter] [LawfulBEq Counter]
    (queue : RefreshQueue Counter) (task : RefreshTask Counter) :
    taskPasses queue task = true ↔
      task.generation = queue.refreshGeneration ∧
        queue.actorRefreshGeneration task.actorFormID = some task.actorGeneration := by
  simp only [taskPasses, isLatestActorRefreshGeneration]
  cases queue.actorRefreshGeneration task.actorFormID with
  | none => simp
  | some latest =>
    simp only [Bool.and_eq_true, beq_iff_eq, Option.some.injEq]
    exact and_congr_left' eq_comm

/-! ## How the queue grows -/

/-- The generation never falls, and tasks stay where they were added. -/
structure Advances (queue queue' : RefreshQueue ℕ) : Prop where
  generation_le : queue.refreshGeneration ≤ queue'.refreshGeneration
  tasks : queue.tasks <+: queue'.tasks

theorem Advances.refl (queue : RefreshQueue ℕ) : Advances queue queue :=
  ⟨le_refl _, List.prefix_refl _⟩

theorem Advances.trans {q₁ q₂ q₃ : RefreshQueue ℕ} (h : Advances q₁ q₂) (h' : Advances q₂ q₃) :
    Advances q₁ q₃ :=
  ⟨h.generation_le.trans h'.generation_le, h.tasks.trans h'.tasks⟩

theorem Advances.getElem? {queue queue' : RefreshQueue ℕ} (h : Advances queue queue') {k : ℕ}
    {task : RefreshTask ℕ} (htask : queue.tasks[k]? = some task) :
    queue'.tasks[k]? = some task := by
  obtain ⟨added, hadded⟩ := h.tasks
  have hlt := (List.getElem?_eq_some_iff.mp htask).1
  rw [← hadded, List.getElem?_append_left hlt, htask]

theorem advances_queueRefreshFor (taskInterface : Bool) (queue : RefreshQueue ℕ)
    (actor : Option Actor) : Advances queue (queueRefreshFor taskInterface queue actor) := by
  cases actor with
  | none => exact .refl queue
  | some actor =>
    simp only [queueRefreshFor, queueActorRefreshGeneration]
    split_ifs
    · exact .refl queue
    · exact ⟨le_refl _, List.prefix_refl _⟩
    · exact ⟨le_refl _, List.prefix_append _ _⟩

theorem advances_invalidateQueuedRefreshes (queue : RefreshQueue ℕ) :
    Advances queue (invalidateQueuedRefreshes queue) :=
  ⟨Nat.le_succ _, List.prefix_refl _⟩

theorem generation_lt_invalidateQueuedRefreshes (queue : RefreshQueue ℕ) :
    queue.refreshGeneration < (invalidateQueuedRefreshes queue).refreshGeneration :=
  Nat.lt_succ_self _

end FittingSchlongs.Refresh
