import FittingSchlongs.Armor.Classifier
import FittingSchlongs.Foundation.History
import FittingSchlongs.Refresh.Guard
import FittingSchlongs.Refresh.Superseding
import Mathlib.Data.Nat.ModEq

/-! # The counters as 64-bit numbers

Both counters are `std::uint64_t` and wrap silently. The queue with wrapping counters is the
image of the queue with natural numbers modulo 2^64, so only a guard can tell the two apart,
and it takes 2^64 steps before one does.
-/

namespace FittingSchlongs.Refresh.Wrapping
open Armor Foundation.Transition

/-- `std::uint64_t`. -/
abbrev Counter := BitVec 64

/-! ## The image modulo 2^64 -/

def wrap (n : ℕ) : Counter := BitVec.ofNat 64 n

theorem wrap_eq_wrap_iff {m n : ℕ} : wrap m = wrap n ↔ m ≡ n [MOD 2 ^ 64] := by
  rw [wrap, wrap, ← BitVec.toNat_inj, BitVec.toNat_ofNat, BitVec.toNat_ofNat]
  rfl

theorem wrap_eq_wrap_iff_of_lt {m n : ℕ} (hm : m < 2 ^ 64) (hn : n < 2 ^ 64) :
    wrap m = wrap n ↔ m = n := by
  rw [wrap_eq_wrap_iff]
  exact ⟨fun h => h.eq_of_lt_of_lt hm hn, fun h => h ▸ Nat.ModEq.refl m⟩

theorem wrap_succ (n : ℕ) : wrap (n + 1) = wrap n + 1 := BitVec.ofNat_add n 1

def wrapTask (task : RefreshTask ℕ) : RefreshTask Counter :=
  ⟨task.actorFormID, wrap task.generation, wrap task.actorGeneration⟩

def wrapQueue (queue : RefreshQueue ℕ) : RefreshQueue Counter where
  refreshGeneration := wrap queue.refreshGeneration
  actorRefreshGeneration actorFormID := (queue.actorRefreshGeneration actorFormID).map wrap
  tasks := queue.tasks.map wrapTask

def wrapCall : Call ℕ → Call Counter
  | .captured actorFormID generation => .captured actorFormID (wrap generation)
  | .bumped task => .bumped (wrapTask task)
  | .incremented => .incremented
  | .finished => .finished

def wrapState (s : ConcurrentState ℕ) : ConcurrentState Counter :=
  ⟨wrapQueue s.queue, s.calls.map wrapCall, s.executed⟩

section Image

variable (queue : RefreshQueue ℕ)

theorem nextActorGeneration_wrapQueue (actorFormID : FormID) :
    (wrapQueue queue).nextActorGeneration actorFormID =
      wrap (queue.nextActorGeneration actorFormID) := by
  simp only [RefreshQueue.nextActorGeneration, wrapQueue, wrap_succ]
  cases queue.actorRefreshGeneration actorFormID <;> rfl

theorem queueActorRefreshGeneration_wrapQueue (actorFormID : FormID) :
    queueActorRefreshGeneration (wrapQueue queue) actorFormID =
      (wrap (queueActorRefreshGeneration queue actorFormID).1,
        wrapQueue (queueActorRefreshGeneration queue actorFormID).2) := by
  have hnumbers : Function.update (wrapQueue queue).actorRefreshGeneration actorFormID
        (some (wrap (queue.nextActorGeneration actorFormID))) =
      fun b => (Function.update queue.actorRefreshGeneration actorFormID
        (some (queue.nextActorGeneration actorFormID)) b).map wrap := by
    funext b
    by_cases hb : b = actorFormID
    · subst hb
      simp
    · simp [hb, wrapQueue]
  rw [queueActorRefreshGeneration, nextActorGeneration_wrapQueue, hnumbers]
  rfl

theorem addTask_wrapQueue (task : RefreshTask ℕ) :
    addTask (wrapQueue queue) (wrapTask task) = wrapQueue (addTask queue task) := by
  simp [addTask, wrapQueue]

theorem incrementRefreshGeneration_wrapQueue :
    incrementRefreshGeneration (wrapQueue queue) =
      wrapQueue (incrementRefreshGeneration queue) := by
  simp [incrementRefreshGeneration, wrapQueue, wrap_succ]

theorem taskPasses_wrapQueue_iff (task : RefreshTask ℕ) :
    taskPasses (wrapQueue queue) (wrapTask task) = true ↔
      queue.refreshGeneration ≡ task.generation [MOD 2 ^ 64] ∧
        ∃ n, queue.actorRefreshGeneration task.actorFormID = some n ∧
          n ≡ task.actorGeneration [MOD 2 ^ 64] := by
  rw [taskPasses, Bool.and_eq_true, beq_iff_eq, isLatestActorRefreshGeneration]
  apply and_congr
  · exact wrap_eq_wrap_iff
  · simp only [wrapQueue, wrapTask]
    cases queue.actorRefreshGeneration task.actorFormID with
    | none => simp
    | some n => simpa using wrap_eq_wrap_iff

end Image

theorem getElem?_wrapState (s : ConcurrentState ℕ) (call : ℕ) :
    (wrapState s).calls[call]? = s.calls[call]?.map wrapCall :=
  List.getElem?_map

/-- Each step on wrapping counters is the image of the step on numbers. -/
theorem step_wrapState (s : ConcurrentState ℕ) (e : Event) :
    step (wrapState s) e = (step s e).map wrapState := by
  cases e with
  | beginQueue a =>
    simp only [step]
    split_ifs
    · rfl
    · simp [wrapState, wrapCall, wrapQueue]
  | bump call =>
    simp only [step, getElem?_wrapState]
    rcases s.calls[call]? with _ | (⟨a, generation⟩ | _ | _ | _) <;> try rfl
    simp [wrapState, wrapCall, wrapTask, queueActorRefreshGeneration_wrapQueue, List.map_set]
  | addTask call =>
    simp only [step, getElem?_wrapState]
    rcases s.calls[call]? with _ | (_ | task | _ | _) <;> try rfl
    simp [wrapState, wrapCall, addTask_wrapQueue, List.map_set]
  | beginInvalidate =>
    simp [step, wrapState, wrapCall, incrementRefreshGeneration_wrapQueue]
  | clear call =>
    simp only [step, getElem?_wrapState]
    rcases s.calls[call]? with _ | (_ | _ | _ | _) <;> try rfl
    simp only [Option.map_some, wrapCall, wrapState, List.map_set]
    rfl
  | runTask task =>
    simp only [step, wrapState, wrapQueue, List.length_map]
    split_ifs <;> rfl

/-! ## Before the counters wrap -/

/-- No counter and no captured one is above `n`. -/
structure CountersWithin (n : ℕ) (s : ConcurrentState ℕ) : Prop where
  generation : s.queue.refreshGeneration ≤ n
  numbers : ∀ a k, s.queue.actorRefreshGeneration a = some k → k ≤ n
  captured : ∀ a g, Call.captured a g ∈ s.calls → g ≤ n
  bumped : ∀ task, Call.bumped task ∈ s.calls →
    task.generation ≤ n ∧ task.actorGeneration ≤ n
  tasks : ∀ task ∈ s.queue.tasks, task.generation ≤ n ∧ task.actorGeneration ≤ n

theorem countersWithin_initial : CountersWithin 0 .initial where
  generation := le_refl 0
  numbers _ _ h := absurd h.symm (Option.some_ne_none _)
  captured _ _ h := absurd h List.not_mem_nil
  bumped _ h := absurd h List.not_mem_nil
  tasks _ h := absurd h List.not_mem_nil

section Bounds

variable {n : ℕ} {s t : ConcurrentState ℕ}

theorem CountersWithin.succ (h : CountersWithin n s) : CountersWithin (n + 1) s where
  generation := Nat.le_succ_of_le h.generation
  numbers a k hk := Nat.le_succ_of_le (h.numbers a k hk)
  captured a g hg := Nat.le_succ_of_le (h.captured a g hg)
  bumped task htask := (h.bumped task htask).imp Nat.le_succ_of_le Nat.le_succ_of_le
  tasks task htask := (h.tasks task htask).imp Nat.le_succ_of_le Nat.le_succ_of_le

theorem CountersWithin.next_le (h : CountersWithin n s) (a : FormID) :
    s.queue.nextActorGeneration a ≤ n + 1 := by
  rw [RefreshQueue.nextActorGeneration]
  cases hnumber : s.queue.actorRefreshGeneration a with
  | none => exact Nat.succ_le_succ (Nat.zero_le n)
  | some k => exact Nat.succ_le_succ (h.numbers a k hnumber)

theorem countersWithin_bump {i : ℕ} (h : CountersWithin n s)
    (hstep : step s (.bump i) = some t) : CountersWithin (n + 1) t := by
  obtain ⟨a, g, hcall, rfl⟩ := step_bump hstep
  constructor
  case generation => exact h.succ.generation
  case numbers =>
    intro b k hk
    by_cases hb : b = a
    · subst hb
      simp only [queueActorRefreshGeneration, Function.update_self, Option.some.injEq] at hk
      exact hk ▸ h.next_le b
    · simp only [queueActorRefreshGeneration, Function.update_of_ne hb] at hk
      exact h.succ.numbers b k hk
  case captured =>
    intro b g' hmem
    rcases List.mem_or_eq_of_mem_set hmem with hold | hnew
    · exact h.succ.captured b g' hold
    · exact absurd hnew (by simp)
  case bumped =>
    intro task hmem
    rcases List.mem_or_eq_of_mem_set hmem with hold | hnew
    · exact h.succ.bumped task hold
    · obtain rfl := Call.bumped.inj hnew
      exact ⟨h.succ.captured a g (List.mem_of_getElem? hcall), h.next_le a⟩
  case tasks => exact h.succ.tasks

theorem countersWithin_step (n : ℕ) (s : ConcurrentState ℕ) (e : Event)
    (t : ConcurrentState ℕ) (h : CountersWithin n s) (hstep : step s e = some t) :
    CountersWithin (n + 1) t := by
  have hfinished : ∀ (i : ℕ) (x : Call ℕ), x ≠ .finished →
      x ∈ s.calls.set i .finished → x ∈ s.calls := by
    intro i x hx hmem
    exact (List.mem_or_eq_of_mem_set hmem).resolve_right hx
  cases e with
  | beginQueue a =>
    rw [step_beginQueue hstep]
    refine { h.succ with captured := fun b g hmem => ?_, bumped := fun task hmem => ?_ }
    · rcases List.mem_append.mp hmem with hold | hnew
      · exact h.succ.captured b g hold
      · obtain ⟨-, rfl⟩ := Call.captured.inj (List.mem_singleton.mp hnew)
        exact h.succ.generation
    · rcases List.mem_append.mp hmem with hold | hnew
      · exact h.succ.bumped task hold
      · exact absurd (List.mem_singleton.mp hnew) (by simp)
  | bump i => exact countersWithin_bump h hstep
  | addTask i =>
    obtain ⟨added, hcall, rfl⟩ := step_addTask hstep
    refine { h.succ with
      captured := fun b g hmem => h.succ.captured b g (hfinished i _ (by simp) hmem)
      bumped := fun task hmem => h.succ.bumped task (hfinished i _ (by simp) hmem)
      tasks := fun task hmem => ?_ }
    rcases List.mem_append.mp hmem with hold | hnew
    · exact h.succ.tasks task hold
    · rw [List.mem_singleton.mp hnew]
      exact h.succ.bumped added (List.mem_of_getElem? hcall)
  | beginInvalidate =>
    rw [step_beginInvalidate hstep]
    refine { h.succ with
      generation := Nat.succ_le_succ h.generation
      captured := fun b g hmem => ?_, bumped := fun task hmem => ?_ }
    · rcases List.mem_append.mp hmem with hold | hnew
      · exact h.succ.captured b g hold
      · exact absurd (List.mem_singleton.mp hnew) (by simp)
    · rcases List.mem_append.mp hmem with hold | hnew
      · exact h.succ.bumped task hold
      · exact absurd (List.mem_singleton.mp hnew) (by simp)
  | clear i =>
    obtain ⟨-, rfl⟩ := step_clear hstep
    exact { h.succ with
      numbers := fun _ _ hk => absurd hk.symm (Option.some_ne_none _)
      captured := fun b g hmem => h.succ.captured b g (hfinished i _ (by simp) hmem)
      bumped := fun task hmem => h.succ.bumped task (hfinished i _ (by simp) hmem) }
  | runTask k =>
    obtain ⟨-, -, rfl⟩ := step_runTask hstep
    exact { h.succ with }

theorem taskPasses_wrapQueue (hs : CountersWithin n s) (hn : n < 2 ^ 64)
    {task : RefreshTask ℕ} (htask : task ∈ s.queue.tasks) :
    taskPasses (wrapQueue s.queue) (wrapTask task) = taskPasses s.queue task := by
  obtain ⟨hgeneration, hnumber⟩ := hs.tasks task htask
  rw [Bool.eq_iff_iff, taskPasses_wrapQueue_iff, taskPasses_iff]
  apply and_congr
  · rw [← wrap_eq_wrap_iff, wrap_eq_wrap_iff_of_lt (hs.generation.trans_lt hn)
      (hgeneration.trans_lt hn)]
    exact eq_comm
  · constructor
    · rintro ⟨k, hk, hmod⟩
      rw [← wrap_eq_wrap_iff, wrap_eq_wrap_iff_of_lt ((hs.numbers _ k hk).trans_lt hn)
        (hnumber.trans_lt hn)] at hmod
      rw [hk, hmod]
    · exact fun hk => ⟨_, hk, Nat.ModEq.refl _⟩

end Bounds

/-! ## What the guards decide in a run -/

theorem decision_wrapState (n : ℕ) (s : ConcurrentState ℕ) (e : Event)
    (hs : CountersWithin n s) (hn : n < 2 ^ 64) :
    decision (wrapState s) e = decision s e := by
  cases e with
  | runTask k =>
    simp only [decision, wrapState, wrapQueue, List.getElem?_map]
    cases htask : s.queue.tasks[k]? with
    | none => rfl
    | some task =>
      exact congrArg some (taskPasses_wrapQueue hs hn (List.mem_of_getElem? htask))
  | _ => rfl

/-- The code's wrapping counters take the same steps as unbounded ones in every interleaving, and
in the first 2^64 steps every guard decides the same. -/
theorem wrapping_refines (events : List Event) :
    runFrom step (.initial : ConcurrentState Counter) events =
      (runFrom step (.initial : ConcurrentState ℕ) events).map wrapState ∧
    (events.length ≤ 2 ^ 64 →
      observations step decision (.initial : ConcurrentState Counter) events =
        observations step decision (.initial : ConcurrentState ℕ) events) :=
  ⟨runFrom_image wrapState step_wrapState .initial events, fun hlength =>
    observations_image wrapState step_wrapState countersWithin_step decision_wrapState
      countersWithin_initial (by rwa [Nat.zero_add])⟩

/-- Two requests of one actor, whose tasks run in the opposite order. -/
theorem wrapping_refines_repeated :
    observations step decision (.initial : ConcurrentState Counter) [.beginQueue 0x14, .bump 0,
      .addTask 0, .beginQueue 0x14, .bump 1, .addTask 1, .runTask 1, .runTask 0] = [true, false] :=
  ((wrapping_refines _).2 (by decide)).trans (by decide)

/-! ## When they wrap -/

section Wrapped

variable {actor : Actor} (hid : actor.formID ≠ 0)
include hid

theorem iterate_queueRefreshFor (taskInterface : Bool) (queue : RefreshQueue Counter) (n : ℕ) :
    ((queueRefreshFor taskInterface · (some actor))^[n + 1] queue).refreshGeneration =
        queue.refreshGeneration ∧
      ((queueRefreshFor taskInterface · (some actor))^[n + 1] queue).actorRefreshGeneration
          actor.formID =
        some (queue.nextActorGeneration actor.formID + BitVec.ofNat 64 n) := by
  induction n with
  | zero => simp [queueRefreshFor_cases taskInterface queue hid]
  | succ n ih =>
    rw [Function.iterate_succ_apply', queueRefreshFor_cases taskInterface _ hid]
    refine ⟨ih.1, ?_⟩
    simp only [Function.update_self, RefreshQueue.nextActorGeneration, ih.2, Option.getD_some]
    rw [BitVec.ofNat_add n 1, ← BitVec.add_assoc]
    rfl

/-- Under requests of its actor alone a task passes again at each 2^64th further one and at none
between. -/
theorem stale_task_passes_iff (taskInterface : Bool) (queue : RefreshQueue Counter) (n : ℕ) :
    taskPasses ((queueRefreshFor taskInterface · (some actor))^[n + 1] queue)
        (queue.nextTask actor.formID) = true ↔ n % 2 ^ 64 = 0 := by
  obtain ⟨hgeneration, hnumber⟩ := iterate_queueRefreshFor hid taskInterface queue n
  simp only [taskPasses, isLatestActorRefreshGeneration, RefreshQueue.nextTask, hgeneration, hnumber,
    beq_self_eq_true, Bool.true_and, beq_iff_eq]
  rw [BitVec.add_right_eq_self, ← BitVec.toNat_inj]
  rfl

end Wrapped

/-- One more request of the player ends its task. -/
theorem stale_task_passes_iff_player :
    taskPasses ((queueRefreshFor true · (some (plainActor 0x14 true [])))^[2] .empty)
      ((RefreshQueue.empty : RefreshQueue Counter).nextTask 0x14) ≠ true :=
  fun h => absurd ((stale_task_passes_iff (by decide) true .empty 1).mp h) (by decide)

end FittingSchlongs.Refresh.Wrapping
