import FittingSchlongs.Plugin.Effects

/-! # The boundary of a game load

A task carries the refresh generation it was queued in, and every load raises the
generation, so a task from before a load fails its guard although the actors' own
numbers start again.
-/

namespace FittingSchlongs.Plugin
open Armor Hooks Keywords Refresh Foundation.Transition

/-! ## Tasks -/

theorem loaded_of_refreshFor {gameDataLoaded : Bool} {target : Option Actor} {actor : Actor}
    (h : refreshFor gameDataLoaded target = some actor) : gameDataLoaded = true := by
  simp only [refreshFor] at h
  split_ifs at h with hguard
  cases gameDataLoaded with
  | false => exact absurd rfl hguard
  | true => rfl

theorem of_updatedActor {s : PluginState} {a : Action} {actor : Actor}
    (h : updatedActor s a = some actor) :
    s.gameDataLoaded = true ∧ ∃ env k task, a = .runTask env k ∧ s.queue.tasks[k]? = some task ∧
      task.generation = s.queue.refreshGeneration := by
  cases a with
  | message env message => exact absurd h.symm (Option.some_ne_none actor)
  | equip env event => exact absurd h.symm (Option.some_ne_none actor)
  | runTask env k =>
    obtain ⟨task, htask, hbody⟩ := Option.bind_eq_some_iff.mp h
    simp only [runRefreshTask] at hbody
    split_ifs at hbody with hguard
    have hpasses : taskPasses s.queue task = true := by simpa using hguard
    exact ⟨loaded_of_refreshFor hbody, env, k, task, rfl, htask,
      ((taskPasses_iff s.queue task).mp hpasses).1⟩

section Boundary

variable {rel : Module} {trampoline : BranchWriter}

theorem generation_lt_of_invalidates {s t : PluginState} {a : Action} (ha : Invalidates s a)
    (h : step rel trampoline s a = some t) :
    s.queue.refreshGeneration < t.queue.refreshGeneration := by
  have hinvalidates : (queueEffect s a).invalidates = true := invalidates_iff.mpr ha
  rw [(effects_step h).queue]
  exact QueueEffect.generation_lt_apply hinvalidates s.queue

/-- Between queuing a task and a moment at which its generation is current nothing
invalidates. -/
theorem along_not_invalidates {s t : PluginState} {between : List Action} {k : ℕ}
    {task : RefreshTask ℕ} (htask : s.queue.tasks[k]? = some task)
    (hold : task.generation ≤ s.queue.refreshGeneration)
    (hrun : runFrom (step rel trampoline) s between = some t)
    (hcurrent : task.generation = t.queue.refreshGeneration) :
    Along (step rel trampoline) (fun u a => ¬ Invalidates u a) s between := by
  induction between generalizing s with
  | nil => trivial
  | cons a between ih =>
    obtain ⟨u, hstep, hrun⟩ := runFrom_cons_iff.mp hrun
    have hadvance := (plugin_drives rel trampoline).advances_step hstep
    refine Along.cons ?_ hstep
      (ih (hadvance.getElem? htask) (hold.trans hadvance.generation_le) hrun)
    intro ha
    have hraised := generation_lt_of_invalidates ha hstep
    have hmono := ((plugin_drives rel trampoline).advances_run hrun).generation_le
    omega

/-- `UpdateEquipment` is called only while the game data is loaded, and only by a task with no
invalidating message between its queuing and its run. -/
theorem update_within_load {memory : MemoryImage} {armors : ArmorRef → TESObjectARMO}
    {actions : List Action} {s : PluginState}
    (hrun : runFrom (step rel trampoline) (.initial memory armors) actions = some s) {a : Action}
    {actor : Actor} (hupdate : updatedActor s a = some actor) :
    s.gameDataLoaded = true ∧ ∃ env k task, a = .runTask env k ∧ s.queue.tasks[k]? = some task ∧
      ∀ before between s₁, actions = before ++ between →
        runFrom (step rel trampoline) (.initial memory armors) before = some s₁ →
        k < s₁.queue.tasks.length →
        Along (step rel trampoline) (fun u a => ¬ Invalidates u a) s₁ between := by
  obtain ⟨hloaded, env, k, task, rfl, htask, hcurrent⟩ := of_updatedActor hupdate
  refine ⟨hloaded, env, k, task, rfl, htask, ?_⟩
  rintro before between s₁ rfl hbefore hqueued
  obtain ⟨s₁', hbefore', hbetween⟩ := runFrom_append_iff.mp hrun
  obtain rfl : s₁ = s₁' := Option.some.inj (hbefore.symm.trans hbefore')
  -- The task that is queued at that position then is the one that runs.
  have hqueued₁ := List.getElem?_eq_getElem hqueued
  have hsame := ((plugin_drives rel trampoline).advances_run hbetween).getElem? hqueued₁
  rw [htask] at hsame
  obtain ⟨slots, hs₁⟩ :=
    (plugin_drives rel trampoline).refines_run ⟨_, refines_initial⟩ hbefore
  have hold := hs₁.noneAhead.generation_le _ (List.mem_of_getElem? hqueued₁)
  exact along_not_invalidates hqueued₁ hold hbetween (Option.some.inj hsame ▸ hcurrent)

end Boundary

/-- The refresh of the player that loading the data queues. -/
theorem update_within_load_player :
    updatedActor (plainLoaded plainArmors) (.runTask plainEnvironment 0) =
        some (plainActor 0x14 true []) ∧
      (plainLoaded plainArmors).gameDataLoaded = true := by
  have hupdate : updatedActor (plainLoaded plainArmors) (.runTask plainEnvironment 0) =
      some (plainActor 0x14 true []) := rfl
  exact ⟨hupdate, (update_within_load (plain_run plainArmors) hupdate).1⟩

end FittingSchlongs.Plugin
