import FittingSchlongs.Plugin.Machine
import FittingSchlongs.Refresh.Driven

/-! # What one action does to each part of the state

The load messages are turned away while the other plugin is loaded or the hooks are
inactive. What is left of an action is at most one pass over the armors, one call of the
sink registration, one invalidation and one request, in this order.
-/

namespace FittingSchlongs.Plugin
open Armor Hooks Keywords Refresh Foundation.Transition

section Definitions

variable (env : Environment) (s : PluginState)

/-- The handler of a load message returns early. -/
def turnedAway : Bool := env.skyrimFittingSystemLoaded || !s.hooksActive

/-- The pass the action applies: the game data and the form array. -/
def appliedPass : Action → Option (GameData × Option FormArray)
  | .message env (some .kDataLoaded) =>
    if turnedAway env s then none else some (env.game, env.dataHandler)
  | .message env (some .kPostLoadGame) =>
    if turnedAway env s then none else some (env.game, env.dataHandler)
  | _ => none

/-- Whether the sink registration the action calls would find the event source. -/
def sinkAnswer : Action → Option Bool
  | .message env (some .kDataLoaded) => if turnedAway env s then none else some env.eventSourceHolder
  | _ => none

def isPreLoadGame : Action → Bool
  | .message _ (some .kPreLoadGame) => true
  | _ => false

/-- The action is a `kPreLoadGame` message, or a `kPostLoadGame` message that reaches its
invalidation. -/
def Invalidates (a : Action) : Prop :=
  ∃ env, a = .message env (some .kPreLoadGame) ∨
    (a = .message env (some .kPostLoadGame) ∧ env.skyrimFittingSystemLoaded = false ∧
      s.hooksActive = true)

def invalidates : Action → Bool
  | .message _ (some .kPreLoadGame) => true
  | .message env (some .kPostLoadGame) => !turnedAway env s
  | _ => false

/-- The actor an equip event asks a refresh for. -/
def relevantActor : Option TESEquipEvent → Option Actor
  | none => none
  | some event =>
    if !s.gameDataLoaded || event.baseObject = 0 then none
    else
      match (env.lookupArmor event.baseObject).map s.armors, event.actor.bind (·.asActor) with
      | some armor, some actor =>
        if isCorrectionRelevantArmor env.game (some actor) armor then some actor else none
      | _, _ => none

/-- The actor the action asks a refresh for. -/
def requestedActor : Action → Option Actor
  | .message env (some .kDataLoaded) => if turnedAway env s then none else env.player
  | .message env (some .kPostLoadGame) => if turnedAway env s then none else env.player
  | .equip env event => relevantActor env s event
  | _ => none

def hasTaskInterface : Action → Bool
  | .message env _ => env.taskInterface
  | .equip env _ => env.taskInterface
  | .runTask env _ => env.taskInterface

def queueEffect (a : Action) : QueueEffect :=
  ⟨invalidates s a, requestedActor s a, hasTaskInterface a⟩

def applyPass (armors : ArmorRef → TESObjectARMO) (pass : GameData × Option FormArray) :
    ArmorRef → TESObjectARMO :=
  Keywords.applyRuntimeArmorCorrections pass.1 pass.2 armors

/-- The once flag and the sink after a call of the registration. -/
def registered (sink : Bool × Bool) (eventSourceHolder : Bool) : Bool × Bool :=
  if sink.1 then sink else (true, eventSourceHolder)

def ranTask : Action → Option ℕ
  | .runTask _ task => some task
  | _ => none

end Definitions

section Step

variable {rel : Module} {trampoline : BranchWriter} {s t : PluginState} {a : Action}

theorem invalidates_iff : invalidates s a = true ↔ Invalidates s a := by
  cases a with
  | message env message =>
    cases message with
    | none => simp [invalidates, Invalidates]
    | some type => cases type <;> simp [invalidates, Invalidates, turnedAway]
  | equip env event => simp [invalidates, Invalidates]
  | runTask env task => simp [invalidates, Invalidates]

/-- The parts of the state after an action. -/
structure Effects (s : PluginState) (a : Action) (t : PluginState) : Prop where
  queue : t.queue = (queueEffect s a).apply s.queue
  loaded : t.gameDataLoaded =
    ((appliedPass s a).isSome || (s.gameDataLoaded && !isPreLoadGame a))
  armors : t.armors = (appliedPass s a).toList.foldl applyPass s.armors
  sink : (t.sinkOnce, t.equipmentEventSink) =
    (sinkAnswer s a).toList.foldl registered (s.sinkOnce, s.equipmentEventSink)
  executed : t.executed = (ranTask a).toList ++ s.executed

theorem Effects.of_eq (hpass : appliedPass s a = none) (hsink : sinkAnswer s a = none)
    (hpre : isPreLoadGame a = false) (hinvalidates : invalidates s a = false)
    (hrequest : requestedActor s a = none) (hran : ranTask a = none)
    (hqueue : t.queue = s.queue) (hloaded : t.gameDataLoaded = s.gameDataLoaded)
    (harmors : t.armors = s.armors) (honce : t.sinkOnce = s.sinkOnce)
    (hregistered : t.equipmentEventSink = s.equipmentEventSink)
    (hexecuted : t.executed = s.executed) : Effects s a t := by
  constructor
  · rw [queueEffect, hinvalidates, hrequest, hqueue]
    rfl
  · simp [hpass, hpre, hloaded]
  · rw [hpass, harmors]
    rfl
  · rw [hsink, honce, hregistered]
    rfl
  · rw [hran, hexecuted]
    rfl

theorem processEvent_eq (env : Environment) (event : Option TESEquipEvent) :
    processEvent env event s =
      { s with
        queue := Refresh.queueRefreshFor env.taskInterface s.queue (relevantActor env s event) } := by
  cases event with
  | none => rfl
  | some event =>
    simp only [processEvent, relevantActor]
    split_ifs
    · rfl
    · cases (env.lookupArmor event.baseObject).map s.armors with
      | none => rfl
      | some armor =>
        cases event.actor.bind (·.asActor) with
        | none => rfl
        | some actor =>
          dsimp only
          split_ifs <;> rfl

theorem registerEquipmentEventSink_eq (env : Environment) :
    registerEquipmentEventSink env s =
      { s with
        sinkOnce := (registered (s.sinkOnce, s.equipmentEventSink) env.eventSourceHolder).1
        equipmentEventSink :=
          (registered (s.sinkOnce, s.equipmentEventSink) env.eventSourceHolder).2 } := by
  simp only [registerEquipmentEventSink, registered]
  by_cases honce : s.sinkOnce = true
  · rw [if_pos honce, if_pos honce]
  · rw [if_neg honce, if_neg honce]

theorem effects_turnedAway {env : Environment} {type : MessageType}
    (haway : turnedAway env s = true) (htype : type = .kDataLoaded ∨ type = .kPostLoadGame) :
    Effects s (.message env (some type)) s := by
  apply Effects.of_eq <;> rcases htype with rfl | rfl <;>
    simp [appliedPass, sinkAnswer, isPreLoadGame, invalidates, requestedActor, ranTask, haway]

theorem effects_kDataLoaded {env : Environment} (haway : turnedAway env s = false) :
    Effects s (.message env (some .kDataLoaded)) (queuePlayerRefresh env
      (registerEquipmentEventSink env (applyRuntimeArmorCorrections env
        (setGameDataLoaded true s)))) := by
  rw [registerEquipmentEventSink_eq]
  constructor
  · simp only [queueEffect, requestedActor, haway]
    rfl
  · simp only [appliedPass, haway]
    rfl
  · simp only [appliedPass, haway]
    rfl
  · simp only [sinkAnswer, haway]
    rfl
  · rfl

theorem effects_kPostLoadGame {env : Environment} (haway : turnedAway env s = false) :
    Effects s (.message env (some .kPostLoadGame)) (queuePlayerRefresh env
      (invalidateQueuedRefreshes (applyRuntimeArmorCorrections env
        (setGameDataLoaded true s)))) := by
  constructor
  · simp only [queueEffect, invalidates, requestedActor, haway]
    rfl
  · simp only [appliedPass, haway]
    rfl
  · simp only [appliedPass, haway]
    rfl
  · rfl
  · rfl

theorem effects_kPreLoadGame {env : Environment} :
    Effects s (.message env (some .kPreLoadGame))
      (invalidateQueuedRefreshes (setGameDataLoaded false s)) := by
  constructor
  · rfl
  · exact (Bool.and_false _).symm
  · rfl
  · rfl
  · rfl

theorem effects_message (env : Environment) (message : Option MessageType) :
    Effects s (.message env message) (messageHandler rel trampoline env message s) := by
  cases message with
  | none => exact .of_eq rfl rfl rfl rfl rfl rfl rfl rfl rfl rfl rfl rfl
  | some type =>
    cases type with
    | kPostPostLoad =>
      simp only [messageHandler]
      split_ifs <;> exact .of_eq rfl rfl rfl rfl rfl rfl rfl rfl rfl rfl rfl rfl
    | kDataLoaded =>
      by_cases haway : turnedAway env s = true
      · have hkept : messageHandler rel trampoline env (some .kDataLoaded) s = s := if_pos haway
        rw [hkept]
        exact effects_turnedAway haway (Or.inl rfl)
      · have hhandled : messageHandler rel trampoline env (some .kDataLoaded) s = _ := if_neg haway
        rw [hhandled]
        exact effects_kDataLoaded (Bool.eq_false_iff.mpr haway)
    | kPreLoadGame => exact effects_kPreLoadGame
    | kPostLoadGame =>
      by_cases haway : turnedAway env s = true
      · have hkept : messageHandler rel trampoline env (some .kPostLoadGame) s = s := if_pos haway
        rw [hkept]
        exact effects_turnedAway haway (Or.inr rfl)
      · have hhandled : messageHandler rel trampoline env (some .kPostLoadGame) s = _ :=
          if_neg haway
        rw [hhandled]
        exact effects_kPostLoadGame (Bool.eq_false_iff.mpr haway)
    | other type => exact .of_eq rfl rfl rfl rfl rfl rfl rfl rfl rfl rfl rfl rfl

theorem effects_step (h : step rel trampoline s a = some t) : Effects s a t := by
  cases a with
  | message env message =>
    obtain rfl := Option.some.inj h
    exact effects_message env message
  | equip env event =>
    obtain rfl := Option.some.inj h
    rw [processEvent_eq]
    constructor
    · rfl
    · exact (Bool.and_true _).symm
    · rfl
    · rfl
    · rfl
  | runTask env task =>
    simp only [step] at h
    split_ifs at h
    obtain rfl := Option.some.inj h
    constructor
    · rfl
    · exact (Bool.and_true _).symm
    · rfl
    · rfl
    · rfl

variable (rel trampoline) in
theorem plugin_drives : Drives (step rel trampoline) PluginState.queue PluginState.executed
    queueEffect ranTask where
  queue_step h := (effects_step h).queue
  executed_step h := (effects_step h).executed
  ran_lt {s a t k} h hran := by
    cases a with
    | message env message => exact absurd hran (Option.some_ne_none k).symm
    | equip env event => exact absurd hran (Option.some_ne_none k).symm
    | runTask env task =>
      obtain rfl : task = k := Option.some.inj hran
      simp only [step] at h
      split_ifs at h with hguard
      exact hguard.1

end Step

end FittingSchlongs.Plugin
