import FittingSchlongs.Plugin.Effects
import FittingSchlongs.Refresh.Delivery
import FittingSchlongs.Refresh.Guard

/-! # The actions of the plugin as steps of its queue

What an action does to the refresh queue is a run of atomic steps with no other call between
them. A run of the plugin is so one schedule of the concurrent queue, with the same guards.
-/

namespace FittingSchlongs.Plugin
open Armor Hooks Keywords Refresh Foundation.Transition

/-- The answer of the guard of the task that an action runs. -/
def guardAnswer (s : PluginState) : Action → Option Bool
  | .runTask _ task => (s.queue.tasks[task]?).map (taskPasses s.queue)
  | _ => none

/-- Atomic steps lead from the one queue with its executed tasks to the other, behind any calls.
They leave only calls that are settled, and their guards answer in turn as listed. -/
def Schedules (settled : Call ℕ → Prop) (queue : RefreshQueue ℕ) (executed : List ℕ)
    (queue' : RefreshQueue ℕ) (executed' : List ℕ) (answers : List Bool) : Prop :=
  ∀ calls, ∃ events left,
    runFrom Refresh.step ⟨queue, calls, executed⟩ events =
      some ⟨queue', calls ++ left, executed'⟩ ∧
    (∀ call ∈ left, settled call) ∧
    observations Refresh.step decision ⟨queue, calls, executed⟩ events = answers

section Calls

variable {settled : Call ℕ → Prop} {queue queue' queue'' : RefreshQueue ℕ}
  {executed executed' executed'' : List ℕ} {answers answers' : List Bool}

theorem schedules_refl : Schedules settled queue executed queue executed [] := by
  intro calls
  refine ⟨[], [], ?_, List.forall_mem_nil _, rfl⟩
  rw [List.append_nil]
  rfl

theorem Schedules.trans (h : Schedules settled queue executed queue' executed' answers)
    (h' : Schedules settled queue' executed' queue'' executed'' answers') :
    Schedules settled queue executed queue'' executed'' (answers ++ answers') := by
  intro calls
  obtain ⟨events, left, hrun, hleft, hanswers⟩ := h calls
  obtain ⟨events', left', hrun', hleft', hanswers'⟩ := h' (calls ++ left)
  refine ⟨events ++ events', left ++ left', ?_, ?_, ?_⟩
  · rw [← List.append_assoc]
    exact runFrom_append_iff.mpr ⟨_, hrun, hrun'⟩
  · exact List.forall_mem_append.mpr ⟨hleft, hleft'⟩
  · rw [observations_append hrun, hanswers, hanswers']

theorem observations_decision_nil {events : List Event}
    (h : ∀ event ∈ events, event.isRunTask = false) (s : ConcurrentState ℕ) :
    observations Refresh.step decision s events = [] := by
  refine observations_of_silent (fun t event hevent => ?_) s
  cases event with
  | runTask task => exact absurd (h _ hevent) Bool.true_eq_false_eq_False
  | _ => rfl

theorem schedules_invalidateQueuedRefreshes (hfinished : settled .finished) :
    Schedules settled queue executed (Refresh.invalidateQueuedRefreshes queue) executed [] := by
  intro calls
  refine ⟨_, [.finished], run_invalidateQueuedRefreshes ⟨queue, calls, executed⟩, ?_, ?_⟩
  · exact List.forall_mem_singleton.mpr hfinished
  · exact observations_decision_nil (by simp [Event.isRunTask]) _

theorem run_queueRefreshFor_bumped (s : ConcurrentState ℕ) (actor : Actor) (hid : actor.formID ≠ 0) :
    runFrom Refresh.step s [.beginQueue actor.formID, .bump s.calls.length] =
      some { s with
        queue := Refresh.queueRefreshFor false s.queue (some actor)
        calls := s.calls ++ [.bumped (s.queue.nextTask actor.formID)] } := by
  have hid' : ¬ actor.formID = 0#32 := hid
  simp [runFrom, Refresh.step, hid', Refresh.queueRefreshFor, queueActorRefreshGeneration,
    RefreshQueue.nextTask]

theorem schedules_queueRefreshFor {taskInterface : Bool} (hfinished : settled .finished)
    (hbumped : taskInterface = false → ∀ task, settled (.bumped task)) (actor : Option Actor) :
    Schedules settled queue executed (Refresh.queueRefreshFor taskInterface queue actor) executed
      [] := by
  by_cases hactor : ∀ x ∈ actor, x.formID = 0
  · rw [queueRefreshFor_ignored hactor]
    exact schedules_refl
  push Not at hactor
  obtain ⟨actor, rfl, hid⟩ := hactor
  intro calls
  cases taskInterface with
  | true =>
    refine ⟨_, [.finished], run_queueRefreshFor ⟨queue, calls, executed⟩ actor hid, ?_, ?_⟩
    · exact List.forall_mem_singleton.mpr hfinished
    · exact observations_decision_nil (by simp [Event.isRunTask]) _
  | false =>
    refine ⟨_, [.bumped (queue.nextTask actor.formID)],
      run_queueRefreshFor_bumped ⟨queue, calls, executed⟩ actor hid, ?_, ?_⟩
    · exact List.forall_mem_singleton.mpr (hbumped rfl _)
    · exact observations_decision_nil (by simp [Event.isRunTask]) _

/-- An effect is an invalidation or none, and a request or none behind it. -/
theorem schedules_apply (effect : QueueEffect) (hfinished : settled .finished)
    (hbumped : effect.taskInterface = false → ∀ task, settled (.bumped task)) :
    Schedules settled queue executed (effect.apply queue) executed [] := by
  have hbefore : Schedules settled queue executed
      (if effect.invalidates then Refresh.invalidateQueuedRefreshes queue else queue) executed
      [] := by
    split_ifs
    · exact schedules_invalidateQueuedRefreshes hfinished
    · exact schedules_refl
  exact hbefore.trans (schedules_queueRefreshFor hfinished hbumped effect.request)

theorem schedules_runTask {task : ℕ} (htask : task < queue.tasks.length ∧ task ∉ executed) :
    Schedules settled queue executed queue (task :: executed)
      ((queue.tasks[task]?).map (taskPasses queue)).toList := by
  intro calls
  refine ⟨[.runTask task], [], ?_, List.forall_mem_nil _, ?_⟩
  · rw [List.append_nil]
    exact runFrom_cons_iff.mpr ⟨_, if_pos htask, rfl⟩
  · rw [observations_cons (if_pos htask)]
    exact List.append_nil _

end Calls

section Runs

variable {rel : Module} {trampoline : BranchWriter} {settled : Call ℕ → Prop}

theorem Effects.schedules {s t : PluginState} {a : Action} (heffects : Effects s a t)
    (hran : ranTask a = none) (hfinished : settled .finished)
    (hbumped : hasTaskInterface a = false → ∀ task, settled (.bumped task)) :
    Schedules settled s.queue s.executed t.queue t.executed [] := by
  have hexecuted := heffects.executed
  rw [hran] at hexecuted
  rw [heffects.queue, hexecuted]
  exact schedules_apply (queueEffect s a) hfinished hbumped

theorem schedules_step {s t : PluginState} {a : Action} (hfinished : settled .finished)
    (hbumped : hasTaskInterface a = false → ∀ task, settled (.bumped task))
    (h : step rel trampoline s a = some t) :
    Schedules settled s.queue s.executed t.queue t.executed (guardAnswer s a).toList := by
  cases a with
  | message env message => exact (effects_step h).schedules rfl hfinished hbumped
  | equip env event => exact (effects_step h).schedules rfl hfinished hbumped
  | runTask env task =>
    simp only [step] at h
    split_ifs at h with htask
    obtain rfl := Option.some.inj h
    exact schedules_runTask htask

theorem schedules_run {s t : PluginState} {actions : List Action} (hfinished : settled .finished)
    (hbumped : ∀ a ∈ actions, hasTaskInterface a = false → ∀ task, settled (.bumped task))
    (hrun : runFrom (step rel trampoline) s actions = some t) :
    Schedules settled s.queue s.executed t.queue t.executed
      (observations (step rel trampoline) guardAnswer s actions) := by
  induction actions generalizing s with
  | nil =>
    obtain rfl := Option.some.inj hrun
    exact schedules_refl
  | cons a actions ih =>
    obtain ⟨u, hu, hrest⟩ := runFrom_cons_iff.mp hrun
    obtain ⟨hhead, htail⟩ := List.forall_mem_cons.mp hbumped
    rw [observations_cons hu]
    exact (schedules_step hfinished hhead hu).trans (ih htail hrest)

end Runs

/-- Every run of the plugin is a run of the concurrent queue to the same queue and the same
executed tasks, in which the guards answer the same. A call that has not finished has raised its
actor's number, and there is none where no action lacks the task interface. -/
theorem run_schedules (rel : Module) (trampoline : BranchWriter) (memory : MemoryImage)
    (armors : ArmorRef → TESObjectARMO) {actions : List Action} {s : PluginState}
    (hrun : runFrom (step rel trampoline) (.initial memory armors) actions = some s) :
    ∃ events t, runFrom Refresh.step .initial events = some t ∧ t.queue = s.queue ∧
      t.executed = s.executed ∧
      observations Refresh.step decision .initial events =
        observations (step rel trampoline) guardAnswer (.initial memory armors) actions ∧
      (∀ call ∈ t.calls, call = .finished ∨ ∃ task, call = .bumped task) ∧
      ((∀ a ∈ actions, hasTaskInterface a = true) → t.Quiescent) := by
  -- A call may stay behind only if some action lacks the task interface.
  have hschedules : Schedules (fun call => call = .finished ∨
      (¬ ∀ a ∈ actions, hasTaskInterface a = true) ∧ ∃ task, call = .bumped task) _ _ _ _ _ :=
    schedules_run (Or.inl rfl) (fun a ha hlacks task =>
      Or.inr ⟨fun hall => absurd (hall a ha) (by simp [hlacks]), task, rfl⟩) hrun
  obtain ⟨events, left, hevents, hleft, hanswers⟩ := hschedules []
  refine ⟨events, _, hevents, rfl, rfl, hanswers, ?_, ?_⟩
  · exact fun call hcall => (hleft call hcall).imp_right And.right
  · exact fun hall call hcall => (hleft call hcall).resolve_right fun hlacks => hlacks.1 hall

/-- The player's task after the data is loaded. -/
theorem run_schedules_plain :
    ∃ events t, runFrom Refresh.step .initial events = some t ∧ t.executed = [0] ∧
      observations Refresh.step decision .initial events = [true] ∧ t.Quiescent := by
  have hrun := runFrom_append_iff.mpr ⟨plainLoaded plainArmors, plain_run plainArmors,
    (rfl : runFrom (step plainModule plainTrampoline) (plainLoaded plainArmors)
      [.runTask plainEnvironment 0] = some { plainLoaded plainArmors with executed := [0] })⟩
  obtain ⟨events, t, hevents, -, hexecuted, hanswers, -, hquiet⟩ :=
    run_schedules plainModule plainTrampoline plainMemory plainArmors hrun
  refine ⟨events, t, hevents, hexecuted, ?_, hquiet (by decide)⟩
  rw [hanswers, observations_append (plain_run plainArmors),
    observations_cons (plain_postPostLoad plainArmors)]
  rfl

end FittingSchlongs.Plugin
