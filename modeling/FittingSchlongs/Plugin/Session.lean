import FittingSchlongs.Plugin.Effects
import FittingSchlongs.Plugin.Lifecycle
import FittingSchlongs.Plugin.LoadBoundary

/-! # What switches the plugin on and off

`SKSEPlugin_Load` decides whether the plugin hears of anything. From then on the history
of the messages says whether the corrections are on, whether the equip sink is there,
and that a plugin turned away by the other one stays as it is after the next load.
-/

namespace FittingSchlongs.Plugin
open Armor Correction Hooks Keywords Refresh Foundation.Transition

/-! ## Loading the plugin -/

def isSupportedRuntime (version : GameVersion) : Bool :=
  decide (selectRuntimeLayout version ≠ .kUnsupported)

/-- What `SKSEPlugin_Load` returns and leaves behind. -/
structure LoadResult where
  succeeded : Bool
  /-- The bytes of `AllocTrampoline`. -/
  trampolineSize : ℕ
  /-- `MessageHandler` is registered with SKSE. -/
  listener : Bool
  deriving DecidableEq

/-- The trampoline is allocated before the messaging interface is asked for. -/
def sksePluginLoad (runtime : GameVersion) (messagingInterface : Bool) : LoadResult :=
  if !isSupportedRuntime runtime then ⟨false, 0, false⟩
  else if !messagingInterface then ⟨false, 1 <<< 12, false⟩
  else ⟨true, 1 <<< 12, true⟩

theorem isSupportedRuntime_iff (version : GameVersion) :
    isSupportedRuntime version = true ↔ version = ⟨1, 5, 97, 0⟩ ∨ version = ⟨1, 6, 1170, 0⟩ := by
  simp only [isSupportedRuntime, selectRuntimeLayout]
  split_ifs with hSE hAE
  · exact iff_of_true (by decide) (Or.inl hSE)
  · exact iff_of_true (by decide) (Or.inr hAE)
  · exact iff_of_false (by decide) (not_or.mpr ⟨hSE, hAE⟩)

theorem listener_sksePluginLoad_iff (runtime : GameVersion) (messagingInterface : Bool) :
    (sksePluginLoad runtime messagingInterface).listener = true ↔
      isSupportedRuntime runtime = true ∧ messagingInterface = true := by
  simp only [sksePluginLoad]
  split_ifs with hruntime hmessaging
  · simp_all
  · simp_all
  · simp_all

/-- SKSE and the game call only what the plugin has registered. -/
def delivered (load : LoadResult) (s : PluginState) : Action → Bool
  | .message _ _ => load.listener
  | .equip _ _ => s.equipmentEventSink
  | .runTask _ _ => true

def sessionStep (load : LoadResult) (rel : Module) (trampoline : BranchWriter) (s : PluginState)
    (a : Action) : Option PluginState :=
  if delivered load s a then step rel trampoline s a else none

section Step

variable {rel : Module} {trampoline : BranchWriter} {s t : PluginState} {a : Action}

theorem sessionStep_iff {load : LoadResult} :
    sessionStep load rel trampoline s a = some t ↔
      delivered load s a = true ∧ step rel trampoline s a = some t := by
  simp only [sessionStep]
  split_ifs with h <;> simp [h]

def LoadsGameData (s : PluginState) (a : Action) : Prop := (appliedPass s a).isSome = true

theorem loaded_step_iff (h : step rel trampoline s a = some t) :
    t.gameDataLoaded = true ↔
      LoadsGameData s a ∨ s.gameDataLoaded = true ∧ ¬ isPreLoadGame a = true := by
  rw [(effects_step h).loaded, Bool.or_eq_true, Bool.and_eq_true, Bool.not_eq_true',
    Bool.not_eq_true]
  rfl

theorem sinkAnswer_eq_some_iff {eventSourceHolder : Bool} :
    sinkAnswer s a = some eventSourceHolder ↔
      ∃ env, a = .message env (some .kDataLoaded) ∧ turnedAway env s = false ∧
        env.eventSourceHolder = eventSourceHolder := by
  constructor
  · intro h
    cases a with
    | message env message =>
      cases message with
      | none => exact absurd h.symm (Option.some_ne_none _)
      | some type =>
        cases type with
        | kDataLoaded =>
          simp only [sinkAnswer] at h
          split_ifs at h with haway
          exact ⟨env, rfl, Bool.eq_false_iff.mpr haway, Option.some.inj h⟩
        | kPostPostLoad => exact absurd h.symm (Option.some_ne_none _)
        | kPreLoadGame => exact absurd h.symm (Option.some_ne_none _)
        | kPostLoadGame => exact absurd h.symm (Option.some_ne_none _)
        | other type => exact absurd h.symm (Option.some_ne_none _)
    | equip env event => exact absurd h.symm (Option.some_ne_none _)
    | runTask env task => exact absurd h.symm (Option.some_ne_none _)
  · rintro ⟨env, rfl, haway, rfl⟩
    simp [sinkAnswer, haway]

def besideOther : Action → Bool
  | .message env _ => env.skyrimFittingSystemLoaded
  | .equip env _ => env.skyrimFittingSystemLoaded
  | .runTask env _ => env.skyrimFittingSystemLoaded

/-- What a turned away plugin keeps. -/
structure Dormant (s t : PluginState) : Prop where
  unloaded : t.gameDataLoaded = false
  armors : t.armors = s.armors
  tasks : t.queue.tasks = s.queue.tasks
  sink : t.equipmentEventSink = s.equipmentEventSink
  hooks : t.hooks = s.hooks

theorem hooks_step_beside (ha : besideOther a = true) (h : step rel trampoline s a = some t) :
    t.hooks = s.hooks := by
  cases a with
  | message env message =>
    obtain rfl := Option.some.inj h
    by_cases hmessage : message = some .kPostPostLoad
    · subst hmessage
      exact congrArg PluginState.hooks (if_pos ha)
    · exact (hooks_messageHandler env s hmessage).1
  | equip env event =>
    obtain rfl := Option.some.inj h
    exact (hooks_processEvent env event s).1
  | runTask env task =>
    simp only [step] at h
    split_ifs at h
    obtain rfl := Option.some.inj h
    rfl

theorem quiet_beside (ha : besideOther a = true) (hs : s.gameDataLoaded = false) :
    appliedPass s a = none ∧ sinkAnswer s a = none ∧ requestedActor s a = none := by
  cases a with
  | message env message =>
    have haway : turnedAway env s = true := by
      rw [turnedAway, show env.skyrimFittingSystemLoaded = true from ha, Bool.true_or]
    cases message with
    | none => exact ⟨rfl, rfl, rfl⟩
    | some type => cases type <;> simp [appliedPass, sinkAnswer, requestedActor, haway]
  | equip env event =>
    cases event <;> simp [appliedPass, sinkAnswer, requestedActor, relevantActor, hs]
  | runTask env task => exact ⟨rfl, rfl, rfl⟩

theorem dormant_step {r : PluginState} (ha : besideOther a = true) (hs : Dormant r s)
    (h : step rel trampoline s a = some t) : Dormant r t := by
  obtain ⟨hpass, hsink, hrequest⟩ := quiet_beside ha hs.unloaded
  have heffects := effects_step h
  constructor
  case unloaded => simp [heffects.loaded, hpass, hs.unloaded]
  case armors => rw [heffects.armors, hpass, ← hs.armors]; rfl
  case tasks =>
    have hasked : (queueEffect s a).asked = none := by
      rw [QueueEffect.asked, queueEffect, hrequest]
      rfl
    rw [heffects.queue, QueueEffect.apply_of_asked_none _ hasked, ← hs.tasks]
    split_ifs <;> rfl
  case sink =>
    have hpair := heffects.sink
    rw [hsink] at hpair
    exact (congrArg Prod.snd hpair).trans hs.sink
  case hooks => exact (hooks_step_beside ha h).trans hs.hooks

end Step

/-! ## Histories -/

section History

variable {rel : Module} {trampoline : BranchWriter} {memory : MemoryImage}
  {armors : ArmorRef → TESObjectARMO} {actions : List Action} {s : PluginState}

theorem loaded_iff_setLast
    (hrun : runFrom (step rel trampoline) (.initial memory armors) actions = some s) :
    s.gameDataLoaded = true ↔ SetLast (step rel trampoline) LoadsGameData
      (fun _ a => isPreLoadGame a = true) (.initial memory armors) actions := by
  rw [iff_setLast (p := fun u => u.gameDataLoaded = true) (fun _ _ _ h => loaded_step_iff h) hrun]
  exact or_iff_left fun h => Bool.false_ne_true h.1

/-- The corrections are on exactly behind a load message that was not turned away and in front of
the next `kPreLoadGame`; elsewhere every query answers as the unmodified game. -/
theorem corrections_on_iff
    (hrun : runFrom (step rel trampoline) (.initial memory armors) actions = some s)
    (game : GameData) (order : SetOrder TESObjectARMO) (actor : Actor) :
    (shouldOverrideSkinning game order s.gameDataLoaded (some (.actor actor)) = true ↔
      SetLast (step rel trampoline) LoadsGameData (fun _ a => isPreLoadGame a = true)
          (.initial memory armors) actions ∧
        GenitalWorn game (wornArmors actor) ∧
          (RevealDemanded game actor (wornArmors actor) ∨
            ConcealDemanded game actor (wornArmors actor))) ∧
    (¬ SetLast (step rel trampoline) LoadsGameData (fun _ a => isPreLoadGame a = true)
        (.initial memory armors) actions → AnswersVanilla s.gameDataLoaded) := by
  rw [← loaded_iff_setLast hrun, shouldOverrideSkinning_iff]
  refine ⟨Iff.rfl, fun hunloaded => ?_⟩
  rw [Bool.not_eq_true] at hunloaded
  rw [hunloaded]
  exact answersVanilla_unloaded

/-- Only the first call of the registration counts. -/
theorem foldl_registered (answers : List Bool) :
    answers.foldl registered (false, false) = (!answers.isEmpty, answers.head?.getD false) := by
  have hspent : ∀ (answers : List Bool) answer,
      answers.foldl registered (true, answer) = (true, answer) := by
    intro answers answer
    induction answers with
    | nil => rfl
    | cons later answers ih => exact ih
  cases answers with
  | nil => rfl
  | cons answer answers => exact hspent answers answer

theorem registered_iff_first
    (hrun : runFrom (step rel trampoline) (.initial memory armors) actions = some s) :
    s.equipmentEventSink = true ↔
      ∃ before env after u, actions = before ++ .message env (some .kDataLoaded) :: after ∧
        runFrom (step rel trampoline) (.initial memory armors) before = some u ∧
        turnedAway env u = false ∧ env.eventSourceHolder = true ∧
        Along (step rel trampoline) (fun v b => sinkAnswer v b = none) (.initial memory armors)
          before := by
  have hpair := foldl_observations (fun u => (u.sinkOnce, u.equipmentEventSink))
    (fun _ _ _ h => (effects_step h).sink) hrun
  have hsink : s.equipmentEventSink = _ := congrArg Prod.snd (hpair.trans (foldl_registered _))
  have hhead : s.equipmentEventSink = true ↔
      (observations (step rel trampoline) sinkAnswer (.initial memory armors) actions).head? =
        some true := by
    rw [hsink]
    cases (observations (step rel trampoline) sinkAnswer (.initial memory armors) actions).head? with
    | none => simp
    | some answer => simp
  rw [hhead, head?_observations hrun]
  constructor
  · rintro ⟨before, a, after, u, rfl, hbefore, hanswer, hnone⟩
    obtain ⟨env, rfl, haway, hsource⟩ := sinkAnswer_eq_some_iff.mp hanswer
    exact ⟨before, env, after, u, rfl, hbefore, haway, hsource, hnone⟩
  · rintro ⟨before, env, after, u, rfl, hbefore, haway, hsource, hnone⟩
    exact ⟨before, _, after, u, rfl, hbefore,
      sinkAnswer_eq_some_iff.mpr ⟨env, rfl, haway, hsource⟩, hnone⟩

/-- The sink is registered exactly when the first `kDataLoaded` that was not turned away found the
event source, and no later message changes that. -/
theorem sink_registered_iff
    (hrun : runFrom (step rel trampoline) (.initial memory armors) actions = some s) :
    s.equipmentEventSink = true ↔
      ∃ before env after u, actions = before ++ .message env (some .kDataLoaded) :: after ∧
        runFrom (step rel trampoline) (.initial memory armors) before = some u ∧
        turnedAway env u = false ∧ env.eventSourceHolder = true ∧
        Along (step rel trampoline) (fun v b => ∀ env', b = .message env' (some .kDataLoaded) →
          turnedAway env' v = true) (.initial memory armors) before := by
  have hnone : ∀ v b, sinkAnswer v b = none ↔
      ∀ env', b = .message env' (some .kDataLoaded) → turnedAway env' v = true := by
    intro v b
    rw [Option.eq_none_iff_forall_ne_some]
    constructor
    · intro h env' hb
      by_contra haway
      exact h _ (sinkAnswer_eq_some_iff.mpr ⟨env', hb, Bool.eq_false_iff.mpr haway, rfl⟩)
    · intro h answer hanswer
      obtain ⟨env', hb, haway, -⟩ := sinkAnswer_eq_some_iff.mp hanswer
      exact Bool.false_ne_true (haway.symm.trans (h env' hb))
  simpa only [hnone] using registered_iff_first hrun

/-- From the next `kPreLoadGame` on, a plugin beside the other one keeps its armors, tasks, sink and
hook sites as they are, answers every query as the unmodified game and updates nobody. -/
theorem turned_away_after_load
    {before after : List Action} {env : Environment} {u : PluginState}
    (hbefore : runFrom (step rel trampoline) (.initial memory armors)
      (before ++ [.message env (some .kPreLoadGame)]) = some u)
    (hafter : runFrom (step rel trampoline) u after = some s)
    (hbeside : ∀ a ∈ after, besideOther a = true) :
    Dormant u s ∧ AnswersVanilla s.gameDataLoaded ∧ ∀ a, updatedActor s a = none := by
  obtain ⟨w, -, hpre⟩ := runFrom_append_iff.mp hbefore
  obtain ⟨v, hv, hend⟩ := runFrom_cons_iff.mp hpre
  obtain rfl : v = u := Option.some.inj hend
  have hunloaded : v.gameDataLoaded = false := by
    rw [(effects_step hv).loaded]
    exact Bool.and_false _
  have hstep : ∀ w a x, besideOther a = true → Dormant v w → step rel trampoline w a = some x →
      Dormant v x := fun _ _ _ ha hw h => dormant_step ha hw h
  have hs : Dormant v s := invariant_of_along hstep (along_of_forall hbeside v)
    ⟨hunloaded, rfl, rfl, rfl, rfl⟩ hafter
  refine ⟨hs, ?_, fun a => ?_⟩
  · rw [hs.unloaded]
    exact answersVanilla_unloaded
  · by_contra hupdated
    obtain ⟨actor, hactor⟩ := Option.ne_none_iff_exists'.mp hupdated
    have hloaded := (of_updatedActor hactor).1
    rw [hs.unloaded] at hloaded
    exact Bool.false_ne_true hloaded

/-! ## Sessions -/

theorem run_of_session {load : LoadResult} {r t : PluginState}
    (hrun : runFrom (sessionStep load rel trampoline) r actions = some t) :
    runFrom (step rel trampoline) r actions = some t := by
  induction actions generalizing r with
  | nil => exact hrun
  | cons a actions ih =>
    obtain ⟨u, hu, hrest⟩ := runFrom_cons_iff.mp hrun
    exact runFrom_cons_iff.mpr ⟨u, (sessionStep_iff.mp hu).2, ih hrest⟩

theorem silent_session {load : LoadResult} (hload : load.listener = false)
    (hrun : runFrom (sessionStep load rel trampoline) (.initial memory armors) actions = some s) :
    actions = [] := by
  cases actions with
  | nil => rfl
  | cons a actions =>
    obtain ⟨u, hu, -⟩ := runFrom_cons_iff.mp hrun
    obtain ⟨hdelivered, hstep⟩ := sessionStep_iff.mp hu
    cases a with
    | message env message => exact absurd (hload.symm.trans hdelivered) Bool.false_ne_true
    | equip env event => exact absurd hdelivered Bool.false_ne_true
    | runTask env task =>
      simp only [step] at hstep
      split_ifs at hstep with hguard
      exact absurd hguard.1 (Nat.not_lt_zero task)

/-- In a session the plugin runs as modelled, hears of nothing on another runtime or without the
messaging interface, and of an equip event only behind a `kDataLoaded` handled with active hooks
that found the event source. -/
theorem session_gated {messagingInterface : Bool}
    (hrun : runFrom (sessionStep (sksePluginLoad rel.version messagingInterface) rel trampoline)
      (.initial memory armors) actions = some s) :
    runFrom (step rel trampoline) (.initial memory armors) actions = some s ∧
    (actions ≠ [] → messagingInterface = true ∧
      (rel.version = ⟨1, 5, 97, 0⟩ ∨ rel.version = ⟨1, 6, 1170, 0⟩)) ∧
    ∀ before env event after, actions = before ++ .equip env event :: after →
      ∃ first env' between u, before = first ++ .message env' (some .kDataLoaded) :: between ∧
        runFrom (step rel trampoline) (.initial memory armors) first = some u ∧
        env'.skyrimFittingSystemLoaded = false ∧ u.hooksActive = true ∧
        env'.eventSourceHolder = true := by
  refine ⟨run_of_session hrun, fun hsome => ?_, ?_⟩
  · have hlistener : (sksePluginLoad rel.version messagingInterface).listener = true := by
      by_contra hsilent
      exact hsome (silent_session (Bool.eq_false_iff.mpr hsilent) hrun)
    obtain ⟨hruntime, hmessaging⟩ := (listener_sksePluginLoad_iff _ _).mp hlistener
    exact ⟨hmessaging, (isSupportedRuntime_iff _).mp hruntime⟩
  · rintro before env event after rfl
    obtain ⟨u, hbefore, hrest⟩ := runFrom_append_iff.mp hrun
    obtain ⟨v, hequip, -⟩ := runFrom_cons_iff.mp hrest
    have hsink : u.equipmentEventSink = true := (sessionStep_iff.mp hequip).1
    obtain ⟨first, env', between, w, rfl, hfirst, haway, hsource, -⟩ :=
      (registered_iff_first (run_of_session hbefore)).mp hsink
    rw [turnedAway, Bool.or_eq_false_iff, Bool.not_eq_false'] at haway
    exact ⟨first, env', between, w, rfl, hfirst, haway.1, haway.2, hsource⟩

end History

/-! ## Plain sessions -/

/-- After the data was loaded the corrections are on for a player in a dress over genital armor. -/
theorem corrections_on_iff_plain :
    SetLast (step plainModule plainTrampoline) LoadsGameData (fun _ a => isPreLoadGame a = true)
      (.initial plainMemory plainArmors)
      [.message plainEnvironment (some .kPostPostLoad),
        .message plainEnvironment (some .kDataLoaded)] :=
  ((corrections_on_iff (plain_run plainArmors) taggedGame SetOrder.dedup
    (plainActor 0x14 true [plainArmor 1 "Dress" bodySlotMask,
      plainArmor 2 "Schlong" genitalSlotMask])).1.mp (by decide)).1

theorem sink_registered_iff_plain : (plainLoaded plainArmors).equipmentEventSink = true :=
  (sink_registered_iff (plain_run plainArmors)).mpr
    ⟨[.message plainEnvironment (some .kPostPostLoad)], plainEnvironment, [],
      plainActive plainArmors, rfl,
      by simp only [runFrom, plain_postPostLoad, Option.bind_some], rfl, rfl,
      ⟨by simp, fun _ _ => trivial⟩⟩

def sharedEnvironment : Environment := { plainEnvironment with skyrimFittingSystemLoaded := true }

/-- The other plugin turns up during a game load. -/
theorem turned_away_after_load_shared :
    AnswersVanilla (messageHandler plainModule plainTrampoline sharedEnvironment
      (some .kPostLoadGame) (messageHandler plainModule plainTrampoline sharedEnvironment
        (some .kPreLoadGame) (plainLoaded plainArmors))).gameDataLoaded := by
  have hbefore : runFrom (step plainModule plainTrampoline) (.initial plainMemory plainArmors)
      ([.message plainEnvironment (some .kPostPostLoad),
        .message plainEnvironment (some .kDataLoaded)] ++
        [.message sharedEnvironment (some .kPreLoadGame)]) = some _ :=
    runFrom_append_iff.mpr ⟨plainLoaded plainArmors, plain_run plainArmors, rfl⟩
  have hafter : runFrom (step plainModule plainTrampoline) (messageHandler plainModule
      plainTrampoline sharedEnvironment (some .kPreLoadGame) (plainLoaded plainArmors))
      [.message sharedEnvironment (some .kPostLoadGame)] = some _ := rfl
  exact (turned_away_after_load hbefore hafter (by decide)).2.1

/-- SKSE delivers the first two messages to a plugin it has loaded, and the game an equip event to
its sink. -/
theorem session_gated_plain :
    runFrom (step plainModule plainTrampoline) (.initial plainMemory plainArmors)
        [.message plainEnvironment (some .kPostPostLoad),
          .message plainEnvironment (some .kDataLoaded), .equip plainEnvironment none] =
        some (plainLoaded plainArmors) ∧
      (plainModule.version = ⟨1, 5, 97, 0⟩ ∨ plainModule.version = ⟨1, 6, 1170, 0⟩) ∧
      ∃ first env between u, [Action.message plainEnvironment (some .kPostPostLoad),
            .message plainEnvironment (some .kDataLoaded)] =
          first ++ .message env (some .kDataLoaded) :: between ∧
        runFrom (step plainModule plainTrampoline) (.initial plainMemory plainArmors) first =
          some u ∧
        env.skyrimFittingSystemLoaded = false ∧ u.hooksActive = true ∧
        env.eventSourceHolder = true := by
  have hrun : runFrom (sessionStep (sksePluginLoad plainModule.version true) plainModule
      plainTrampoline) (.initial plainMemory plainArmors)
      ([.message plainEnvironment (some .kPostPostLoad),
        .message plainEnvironment (some .kDataLoaded)] ++ [.equip plainEnvironment none]) =
      some (plainLoaded plainArmors) :=
    runFrom_append_iff.mpr ⟨plainLoaded plainArmors, plain_run plainArmors, rfl⟩
  obtain ⟨hplugin, hheard, hequip⟩ := session_gated hrun
  exact ⟨hplugin, (hheard (by simp)).2, hequip [_, _] plainEnvironment none [] rfl⟩

end FittingSchlongs.Plugin
