import FittingSchlongs.Refresh.Queue
import FittingSchlongs.Foundation.Transition
import Mathlib.Data.List.Perm.Basic
import Mathlib.Data.List.Range

/-! # Concurrent callers of the refresh queue

`QueueRefreshFor` reads the generation, raises the actor's number and adds a task in
three atomic steps; `InvalidateQueuedRefreshes` raises the generation and clears the
numbers in two. Any number of calls interleave, and tasks run in any order.
-/

namespace FittingSchlongs.Refresh
open Armor Foundation.Transition

/-- Where a call stands between its atomic steps. -/
inductive Call (Counter : Type) where
  /-- `QueueRefreshFor` has read the generation. -/
  | captured (actorFormID : FormID) (generation : Counter)
  /-- `QueueRefreshFor` has its actor number and is about to add the task. -/
  | bumped (task : RefreshTask Counter)
  /-- `InvalidateQueuedRefreshes` has raised the generation. -/
  | incremented
  | finished
  deriving DecidableEq

structure ConcurrentState (Counter : Type) where
  queue : RefreshQueue Counter
  /-- Every call ever begun. -/
  calls : List (Call Counter)
  /-- Positions of the tasks that have run. -/
  executed : List ℕ

inductive Event where
  | beginQueue (actorFormID : FormID)
  | bump (call : ℕ)
  | addTask (call : ℕ)
  | beginInvalidate
  | clear (call : ℕ)
  | runTask (task : ℕ)
  deriving DecidableEq

section Counters

variable {Counter : Type} [OfNat Counter 0] [OfNat Counter 1] [Add Counter]

def ConcurrentState.initial : ConcurrentState Counter := ⟨RefreshQueue.empty, [], []⟩

def step (s : ConcurrentState Counter) : Event → Option (ConcurrentState Counter)
  | .beginQueue actorFormID =>
    if actorFormID = 0 then none
    else some { s with calls := s.calls ++ [.captured actorFormID s.queue.refreshGeneration] }
  | .bump call =>
    match s.calls[call]? with
    | some (.captured actorFormID generation) =>
      let (actorGeneration, queue) := queueActorRefreshGeneration s.queue actorFormID
      some { s with
        queue := queue
        calls := s.calls.set call (.bumped ⟨actorFormID, generation, actorGeneration⟩) }
    | _ => none
  | .addTask call =>
    match s.calls[call]? with
    | some (.bumped task) =>
      some { s with queue := Refresh.addTask s.queue task, calls := s.calls.set call .finished }
    | _ => none
  | .beginInvalidate =>
    some { s with
      queue := incrementRefreshGeneration s.queue
      calls := s.calls ++ [.incremented] }
  | .clear call =>
    match s.calls[call]? with
    | some .incremented =>
      some { s with
        queue := clearQueuedActorRefreshes s.queue
        calls := s.calls.set call .finished }
    | _ => none
  | .runTask task =>
    if task < s.queue.tasks.length ∧ task ∉ s.executed then
      some { s with executed := task :: s.executed }
    else none

/-! ## What one step does -/

section Steps

variable {s t : ConcurrentState Counter}

theorem step_beginQueue {a : FormID} (h : step s (.beginQueue a) = some t) :
    t = { s with calls := s.calls ++ [.captured a s.queue.refreshGeneration] } := by
  simp only [step] at h
  split_ifs at h
  exact (Option.some.inj h).symm

theorem step_bump {i : ℕ} (h : step s (.bump i) = some t) :
    ∃ a g, s.calls[i]? = some (.captured a g) ∧
      t = { s with
        queue := (queueActorRefreshGeneration s.queue a).2
        calls := s.calls.set i (.bumped ⟨a, g, s.queue.nextActorGeneration a⟩) } := by
  simp only [step] at h
  split at h
  · next a g hcall => exact ⟨a, g, hcall, (Option.some.inj h).symm⟩
  · exact absurd h (Option.some_ne_none t).symm

theorem step_addTask {i : ℕ} (h : step s (.addTask i) = some t) :
    ∃ task, s.calls[i]? = some (.bumped task) ∧
      t = { s with queue := addTask s.queue task, calls := s.calls.set i .finished } := by
  simp only [step] at h
  split at h
  · next task hcall => exact ⟨task, hcall, (Option.some.inj h).symm⟩
  · exact absurd h (Option.some_ne_none t).symm

theorem step_beginInvalidate (h : step s .beginInvalidate = some t) :
    t = { s with
      queue := incrementRefreshGeneration s.queue
      calls := s.calls ++ [.incremented] } :=
  (Option.some.inj h).symm

theorem step_clear {i : ℕ} (h : step s (.clear i) = some t) :
    s.calls[i]? = some .incremented ∧
      t = { s with
        queue := clearQueuedActorRefreshes s.queue
        calls := s.calls.set i .finished } := by
  simp only [step] at h
  split at h
  · next hcall => exact ⟨hcall, (Option.some.inj h).symm⟩
  · exact absurd h (Option.some_ne_none t).symm

theorem step_runTask {k : ℕ} (h : step s (.runTask k) = some t) :
    k < s.queue.tasks.length ∧ k ∉ s.executed ∧ t = { s with executed := k :: s.executed } := by
  simp only [step] at h
  split_ifs at h with hk
  exact ⟨hk.1, hk.2, (Option.some.inj h).symm⟩

end Steps

/-! ## Calls without interruption -/

/-- The three steps of `QueueRefreshFor` in a row are the function. -/
theorem run_queueRefreshFor (s : ConcurrentState Counter) (actor : Actor) (hid : actor.formID ≠ 0) :
    runFrom step s [.beginQueue actor.formID, .bump s.calls.length, .addTask s.calls.length] =
      some { s with
        queue := queueRefreshFor true s.queue (some actor)
        calls := s.calls ++ [.finished] } := by
  have hid' : ¬ actor.formID = 0#32 := hid
  simp [runFrom, step, hid', queueRefreshFor, queueActorRefreshGeneration]

theorem run_invalidateQueuedRefreshes (s : ConcurrentState Counter) :
    runFrom step s [.beginInvalidate, .clear s.calls.length] =
      some { s with
        queue := invalidateQueuedRefreshes s.queue
        calls := s.calls ++ [.finished] } := by
  simp [runFrom, step, invalidateQueuedRefreshes]

end Counters

end FittingSchlongs.Refresh
