import FittingSchlongs.Correction.Queries
import FittingSchlongs.Plugin.Machine

/-! # The life of the plugin

The plugin fails closed: until a `kPostPostLoad` message without the other plugin has
patched all three hook sites, no message changes an armor, registers the sink, queues a
refresh or makes a query answer differently from the unmodified game.
-/

namespace FittingSchlongs.Plugin
open Armor Correction Hooks Keywords Refresh Foundation.ByteMemory Foundation.Transition

section Lifecycle

variable {rel : Module} {trampoline : BranchWriter} {memory : MemoryImage}
  {armors : ArmorRef → TESObjectARMO}

/-- The action is a `kPostPostLoad` message handled while the other plugin is absent. -/
def Installs (a : Action) : Prop :=
  ∃ env, a = .message env (some .kPostPostLoad) ∧ env.skyrimFittingSystemLoaded = false

/-- Nothing has been touched yet. -/
structure Untouched (armors : ArmorRef → TESObjectARMO) (s : PluginState) : Prop where
  armors_eq : s.armors = armors
  sink : s.equipmentEventSink = false
  tasks : s.queue.tasks = []
  unloaded : s.gameDataLoaded = false

/-- The hook sites before and after the one installation, and what inactive hooks imply. -/
structure Lifecycle (rel : Module) (trampoline : BranchWriter) (memory : MemoryImage)
    (armors : ArmorRef → TESObjectARMO) (s : PluginState) : Prop where
  hooks : (s.hooks = .initial memory ∧ s.hooksActive = false) ∨
    (s.hooks = (Hooks.installSkinningHooks rel trampoline (.initial memory)).2 ∧
      s.hooksActive = (Hooks.installSkinningHooks rel trampoline (.initial memory)).1)
  inactive : s.hooksActive = false → Untouched armors s

theorem lifecycle_initial : Lifecycle rel trampoline memory armors (.initial memory armors) where
  hooks := Or.inl ⟨rfl, rfl⟩
  inactive _ := ⟨rfl, rfl, rfl, rfl⟩

theorem lifecycle_install (hAE : LayoutAgrees rel)
    (hsep : (hookSites rel (selectRuntimeLayout rel.version)).Pairwise Separate) {s : PluginState}
    (hs : Lifecycle rel trampoline memory armors s) :
    Lifecycle rel trampoline memory armors (installSkinningHooks rel trampoline s) := by
  have hinstalled : (installSkinningHooks rel trampoline s).hooks =
      (Hooks.installSkinningHooks rel trampoline (.initial memory)).2 ∧
      (installSkinningHooks rel trampoline s).hooksActive =
        (Hooks.installSkinningHooks rel trampoline (.initial memory)).1 := by
    rcases hs.hooks with ⟨hhooks, -⟩ | ⟨hhooks, hactive⟩
    · simp only [installSkinningHooks, hhooks, and_self]
    · simp only [installSkinningHooks, hhooks]
      rcases installSkinningHooks_cases trampoline hAE hsep memory with ⟨-, heq⟩ | ⟨-, heq⟩
      · rw [heq]
        exact ⟨rfl, rfl⟩
      · rw [heq]
        exact ⟨rfl, rfl⟩
  constructor
  · exact Or.inr hinstalled
  · intro hinactive
    have hbefore : s.hooksActive = false := by
      rcases hs.hooks with ⟨-, hactive⟩ | ⟨-, hactive⟩
      · exact hactive
      · rw [hactive, ← hinstalled.2, hinactive]
    obtain ⟨harmors, hsink, htasks, hunloaded⟩ := hs.inactive hbefore
    exact ⟨harmors, hsink, htasks, hunloaded⟩

theorem hooks_messageHandler (env : Environment) {message : Option MessageType} (s : PluginState)
    (h : message ≠ some .kPostPostLoad) :
    (messageHandler rel trampoline env message s).hooks = s.hooks ∧
      (messageHandler rel trampoline env message s).hooksActive = s.hooksActive := by
  simp only [messageHandler]
  cases message with
  | none => exact ⟨rfl, rfl⟩
  | some type =>
    cases type with
    | kPostPostLoad => exact absurd rfl h
    | kDataLoaded =>
      dsimp only
      split_ifs
      · exact ⟨rfl, rfl⟩
      · simp only [registerEquipmentEventSink]
        split_ifs <;> exact ⟨rfl, rfl⟩
    | kPreLoadGame => exact ⟨rfl, rfl⟩
    | kPostLoadGame =>
      dsimp only
      split_ifs <;> exact ⟨rfl, rfl⟩
    | other type => exact ⟨rfl, rfl⟩

theorem untouched_messageHandler {env : Environment} {message : Option MessageType}
    {s : PluginState} (h : message ≠ some .kPostPostLoad) (hinactive : s.hooksActive = false)
    (hs : Untouched armors s) : Untouched armors (messageHandler rel trampoline env message s) := by
  obtain ⟨harmors, hsink, htasks, hunloaded⟩ := hs
  simp only [messageHandler]
  cases message with
  | none => exact ⟨harmors, hsink, htasks, hunloaded⟩
  | some type =>
    cases type with
    | kPostPostLoad => exact absurd rfl h
    | kDataLoaded =>
      simp only [hinactive, Bool.not_false, Bool.or_true, ↓reduceIte]
      exact ⟨harmors, hsink, htasks, hunloaded⟩
    | kPreLoadGame => exact ⟨harmors, hsink, htasks, rfl⟩
    | kPostLoadGame =>
      simp only [hinactive, Bool.not_false, Bool.or_true, ↓reduceIte]
      exact ⟨harmors, hsink, htasks, hunloaded⟩
    | other type => exact ⟨harmors, hsink, htasks, hunloaded⟩

theorem processEvent_unloaded {env : Environment} {event : Option TESEquipEvent} {s : PluginState}
    (h : s.gameDataLoaded = false) : processEvent env event s = s := by
  cases event with
  | none => rfl
  | some event => simp [processEvent, h]

theorem hooks_processEvent (env : Environment) (event : Option TESEquipEvent) (s : PluginState) :
    (processEvent env event s).hooks = s.hooks ∧
      (processEvent env event s).hooksActive = s.hooksActive := by
  simp only [processEvent]
  cases event with
  | none => exact ⟨rfl, rfl⟩
  | some event =>
    dsimp only
    split_ifs
    · exact ⟨rfl, rfl⟩
    · split
      · split_ifs <;> exact ⟨rfl, rfl⟩
      · exact ⟨rfl, rfl⟩

theorem Lifecycle.keep {s t : PluginState} (hs : Lifecycle rel trampoline memory armors s)
    (hhooks : t.hooks = s.hooks ∧ t.hooksActive = s.hooksActive)
    (huntouched : s.hooksActive = false → Untouched armors s → Untouched armors t) :
    Lifecycle rel trampoline memory armors t := by
  constructor
  · rw [hhooks.1, hhooks.2]
    exact hs.hooks
  · rw [hhooks.2]
    intro hinactive
    exact huntouched hinactive (hs.inactive hinactive)

theorem lifecycle_step (hAE : LayoutAgrees rel)
    (hsep : (hookSites rel (selectRuntimeLayout rel.version)).Pairwise Separate)
    {s t : PluginState} {a : Action} (hs : Lifecycle rel trampoline memory armors s)
    (h : step rel trampoline s a = some t) : Lifecycle rel trampoline memory armors t := by
  cases a with
  | message env message =>
    obtain rfl := Option.some.inj h
    by_cases hmessage : message = some .kPostPostLoad
    · subst hmessage
      simp only [messageHandler]
      split_ifs
      · exact hs
      · exact lifecycle_install hAE hsep hs
    · exact hs.keep (hooks_messageHandler env s hmessage) (untouched_messageHandler hmessage)
  | equip env event =>
    obtain rfl := Option.some.inj h
    apply hs.keep (hooks_processEvent env event s)
    intro _ hbefore
    rwa [processEvent_unloaded hbefore.unloaded]
  | runTask env task =>
    simp only [step] at h
    split_ifs at h
    obtain rfl := Option.some.inj h
    refine hs.keep ⟨rfl, rfl⟩ ?_
    exact fun _ hbefore => ⟨hbefore.armors_eq, hbefore.sink, hbefore.tasks, hbefore.unloaded⟩

theorem inactive_step {s t : PluginState} {a : Action} (ha : ¬ Installs a)
    (hs : s.hooksActive = false) (h : step rel trampoline s a = some t) : t.hooksActive = false := by
  cases a with
  | message env message =>
    obtain rfl := Option.some.inj h
    by_cases hmessage : message = some .kPostPostLoad
    · subst hmessage
      simp only [messageHandler]
      split_ifs with hsfs
      · exact hs
      · exact absurd ⟨env, rfl, by simpa using hsfs⟩ ha
    · rw [(hooks_messageHandler env s hmessage).2, hs]
  | equip env event =>
    obtain rfl := Option.some.inj h
    rw [(hooks_processEvent env event s).2, hs]
  | runTask env task =>
    simp only [step] at h
    split_ifs at h
    obtain rfl := Option.some.inj h
    exact hs

/-- Loaded game data means active hooks, active hooks mean a complete installation in the
absence of the other plugin, and inactive hooks mean that nothing is touched. -/
theorem fails_closed (hAE : LayoutAgrees rel)
    (hsep : (hookSites rel (selectRuntimeLayout rel.version)).Pairwise Separate)
    {actions : List Action} {s : PluginState}
    (hrun : runFrom (step rel trampoline) (.initial memory armors) actions = some s) :
    (s.gameDataLoaded = true → s.hooksActive = true) ∧
    (s.hooksActive = true →
      selectRuntimeLayout rel.version ≠ .kUnsupported ∧
      (∀ site ∈ hookSites rel (selectRuntimeLayout rel.version),
        site.Verified memory ∧ s.hooks.memory site.address = 0xE9) ∧
      ∃ env, .message env (some .kPostPostLoad) ∈ actions ∧
        env.skyrimFittingSystemLoaded = false) ∧
    (s.hooksActive = false →
      s.armors = armors ∧ s.equipmentEventSink = false ∧ s.queue.tasks = [] ∧
        AnswersVanilla s.gameDataLoaded) := by
  have hs : Lifecycle rel trampoline memory armors s := invariant_of_run
    (fun _ _ _ hu hstep => lifecycle_step hAE hsep hu hstep) lifecycle_initial hrun
  refine ⟨fun hloaded => ?_, fun hactive => ?_, fun hinactive => ?_⟩
  · by_contra hinactive
    have hunloaded := (hs.inactive (by simpa using hinactive)).unloaded
    rw [hloaded] at hunloaded
    exact Bool.false_ne_true hunloaded.symm
  · have hinstalls : ∃ a ∈ actions, Installs a := by
      by_contra hnone
      have hall : ∀ a ∈ actions, ¬ Installs a := fun a ha h => hnone ⟨a, ha, h⟩
      have hinactive : s.hooksActive = false := invariant_of_along
        (fun _ _ _ ha hu hstep => inactive_step ha hu hstep) (along_of_forall hall _) rfl hrun
      rw [hactive] at hinactive
      exact Bool.false_ne_true hinactive.symm
    obtain ⟨a, ha, env, rfl, hsfs⟩ := hinstalls
    rcases hs.hooks with ⟨-, hinactive⟩ | ⟨hhooks, hanswer⟩
    · rw [hactive] at hinactive
      exact absurd hinactive.symm Bool.false_ne_true
    · rcases installSkinningHooks_cases trampoline hAE hsep memory with ⟨haccept, heq⟩ | ⟨-, heq⟩
      · rw [hhooks, heq]
        refine ⟨haccept.1, fun site hsite => ⟨haccept.2 site hsite, ?_⟩, env, ha, hsfs⟩
        exact writeSites_opcode trampoline hsep hsite memory
      · rw [heq, hactive] at hanswer
        exact absurd hanswer.symm Bool.false_ne_true
  · obtain ⟨harmors, hsink, htasks, hunloaded⟩ := hs.inactive hinactive
    refine ⟨harmors, hsink, htasks, ?_⟩
    rw [hunloaded]
    exact answersVanilla_unloaded

end Lifecycle

/-- The first message patches the unmodified game. -/
theorem fails_closed_plain :
    ∃ s, runFrom (step plainModule plainTrampoline) (.initial plainMemory plainArmors)
        [.message plainEnvironment (some .kPostPostLoad)] = some s ∧
      ∀ site ∈ hookSites plainModule .kSE1597, s.hooks.memory site.address = 0xE9 := by
  have hrun : runFrom (step plainModule plainTrampoline) (.initial plainMemory plainArmors)
      [.message plainEnvironment (some .kPostPostLoad)] = some (plainActive plainArmors) := by
    simp only [runFrom, plain_postPostLoad, Option.bind_some]
  have hclosed := (fails_closed plainModule_agrees plainSites_separate hrun).2.1 rfl
  exact ⟨_, hrun, fun site hsite => (hclosed.2.1 site hsite).2⟩

end FittingSchlongs.Plugin
