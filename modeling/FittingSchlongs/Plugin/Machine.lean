import FittingSchlongs.Correction.CorrectionSet
import FittingSchlongs.Foundation.Transition
import FittingSchlongs.Hooks.AllOrNothing
import FittingSchlongs.Keywords.Managed
import FittingSchlongs.Refresh.Queue

/-! # The plugin as a state machine

SKSE messages, equip events and queued refresh tasks act on the plugin's globals, on the
armors in memory and on the bytes at the hook sites. What the game and SKSE answer may
differ at every step.
-/

namespace FittingSchlongs.Plugin
open Armor Hooks Keywords Refresh Foundation.Transition

/-- What the outside world answers during one step. -/
structure Environment where
  /-- `IsSkyrimFittingSystemLoaded()`. -/
  skyrimFittingSystemLoaded : Bool
  game : GameData
  /-- `RE::TESDataHandler::GetSingleton()`. -/
  dataHandler : Option FormArray
  /-- `RE::PlayerCharacter::GetSingleton()`. -/
  player : Option Actor
  /-- `SKSE::GetTaskInterface()` is not null. -/
  taskInterface : Bool
  /-- `RE::ScriptEventSourceHolder::GetSingleton()` is not null. -/
  eventSourceHolder : Bool
  /-- `RE::TESForm::LookupByID<RE::TESObjectARMO>`. -/
  lookupArmor : FormID → Option ArmorRef
  /-- `RE::TESForm::LookupByID<RE::Actor>`. -/
  lookupActor : FormID → Option Actor

inductive MessageType where
  | kPostPostLoad
  | kDataLoaded
  | kPreLoadGame
  | kPostLoadGame
  | other (type : BitVec 32)
  deriving DecidableEq

structure TESEquipEvent where
  actor : Option TESObjectREFR
  baseObject : FormID

structure PluginState where
  /-- `g_hooksActive`. -/
  hooksActive : Bool
  hooks : HookState
  /-- `g_gameDataLoaded`. -/
  gameDataLoaded : Bool
  queue : RefreshQueue ℕ
  armors : ArmorRef → TESObjectARMO
  /-- The once flag of `RegisterEquipmentEventSink`. -/
  sinkOnce : Bool
  equipmentEventSink : Bool
  /-- Positions of the tasks that have run. -/
  executed : List ℕ

def PluginState.initial (memory : MemoryImage) (armors : ArmorRef → TESObjectARMO) :
    PluginState where
  hooksActive := false
  hooks := .initial memory
  gameDataLoaded := false
  queue := .empty
  armors := armors
  sinkOnce := false
  equipmentEventSink := false
  executed := []

variable (rel : Module) (trampoline : BranchWriter) (env : Environment)

/-! ## Messages -/

def setGameDataLoaded (loaded : Bool) (s : PluginState) : PluginState :=
  { s with gameDataLoaded := loaded }

def applyRuntimeArmorCorrections (s : PluginState) : PluginState :=
  { s with armors := Keywords.applyRuntimeArmorCorrections env.game env.dataHandler s.armors }

/-- Without an event source the once flag is spent all the same. -/
def registerEquipmentEventSink (s : PluginState) : PluginState :=
  if s.sinkOnce then s
  else { s with sinkOnce := true, equipmentEventSink := env.eventSourceHolder }

def invalidateQueuedRefreshes (s : PluginState) : PluginState :=
  { s with queue := Refresh.invalidateQueuedRefreshes s.queue }

def queueRefreshFor (actor : Option Actor) (s : PluginState) : PluginState :=
  { s with queue := Refresh.queueRefreshFor env.taskInterface s.queue actor }

def queuePlayerRefresh (s : PluginState) : PluginState := queueRefreshFor env env.player s

def installSkinningHooks (s : PluginState) : PluginState :=
  let (succeeded, hooks) := Hooks.installSkinningHooks rel trampoline s.hooks
  { s with hooksActive := succeeded, hooks := hooks }

def messageHandler (message : Option MessageType) (s : PluginState) : PluginState :=
  match message with
  | none => s
  | some .kPostPostLoad =>
    if env.skyrimFittingSystemLoaded then s else installSkinningHooks rel trampoline s
  | some .kDataLoaded =>
    if env.skyrimFittingSystemLoaded || !s.hooksActive then s
    else
      let s := setGameDataLoaded true s
      let s := applyRuntimeArmorCorrections env s
      let s := registerEquipmentEventSink env s
      queuePlayerRefresh env s
  | some .kPreLoadGame =>
    let s := setGameDataLoaded false s
    invalidateQueuedRefreshes s
  | some .kPostLoadGame =>
    if env.skyrimFittingSystemLoaded || !s.hooksActive then s
    else
      let s := setGameDataLoaded true s
      let s := applyRuntimeArmorCorrections env s
      let s := invalidateQueuedRefreshes s
      queuePlayerRefresh env s
  | some (.other _) => s

/-! ## Equip events -/

def processEvent (event : Option TESEquipEvent) (s : PluginState) : PluginState :=
  match event with
  | none => s
  | some event =>
    if !s.gameDataLoaded || event.baseObject = 0 then s
    else
      match (env.lookupArmor event.baseObject).map s.armors, event.actor.bind (·.asActor) with
      | some armor, some actor =>
        if isCorrectionRelevantArmor env.game (some actor) armor then
          queueRefreshFor env (some actor) s
        else s
      | _, _ => s

/-! ## Refresh tasks -/

def isActorRefreshable (actor : Option Actor) : Bool :=
  match actor with
  | none => false
  | some actor => !actor.isDeleted && !actor.isDisabled && actor.is3DLoaded

/-- The actor on whom `RefreshFor` calls `SetEquipFlag` and `UpdateEquipment`. -/
def refreshFor (gameDataLoaded : Bool) (actor : Option Actor) : Option Actor :=
  if !gameDataLoaded || !isActorRefreshable actor then none
  else
    match actor with
    | none => none
    | some actor => if !actor.hasProcess then none else some actor

/-- The body of a queued task. -/
def runRefreshTask (s : PluginState) (task : RefreshTask ℕ) : Option Actor :=
  if !taskPasses s.queue task then none
  else refreshFor s.gameDataLoaded (env.lookupActor task.actorFormID)

/-! ## Runs -/

inductive Action where
  | message (env : Environment) (message : Option MessageType)
  | equip (env : Environment) (event : Option TESEquipEvent)
  | runTask (env : Environment) (task : ℕ)

/-- Tasks run once, in any order. -/
def step (s : PluginState) : Action → Option PluginState
  | .message env message => some (messageHandler rel trampoline env message s)
  | .equip env event => some (processEvent env event s)
  | .runTask _ task =>
    if task < s.queue.tasks.length ∧ task ∉ s.executed then
      some { s with executed := task :: s.executed }
    else none

/-- The actor an action calls `UpdateEquipment` on. -/
def updatedActor (s : PluginState) : Action → Option Actor
  | .message _ _ => none
  | .equip _ _ => none
  | .runTask env task => (s.queue.tasks[task]?).bind (runRefreshTask env s)

/-! ## A plain session -/

/-- A bikini in slot 49 and genital armor, both registered. -/
def plainArmors : ArmorRef → TESObjectARMO
  | 0 => plainArmor 1 "Bikini" pelvisPrimarySlotMask
  | _ => plainArmor 2 "Schlong" genitalSlotMask

/-- SOS and TNG are installed and everything the plugin asks for is there. -/
def plainEnvironment : Environment where
  skyrimFittingSystemLoaded := false
  game := taggedGame
  dataHandler := some ⟨[some 0, some 1], by decide⟩
  player := some (plainActor 0x14 true [])
  taskInterface := true
  eventSourceHolder := true
  lookupArmor formID := if formID = 1 then some 0 else none
  lookupActor formID := if formID = 0x14 then some (plainActor 0x14 true []) else none

/-- The unmodified game with all hooks installed. -/
def plainActive (armors : ArmorRef → TESObjectARMO) : PluginState :=
  { PluginState.initial plainMemory armors with
    hooksActive := true
    hooks := ⟨writeSites plainTrampoline (hookSites plainModule .kSE1597) plainMemory, true, true⟩ }

theorem plain_postPostLoad (armors : ArmorRef → TESObjectARMO) :
    step plainModule plainTrampoline (.initial plainMemory armors)
      (.message plainEnvironment (some .kPostPostLoad)) = some (plainActive armors) := by
  have hinstall := installSkinningHooks_accepted plainTrampoline plainModule_agrees plainMemory
    (by decide) plainSites_separate plainSites_verified
  simp only [step, messageHandler, plainEnvironment, installSkinningHooks, PluginState.initial,
    hinstall, Bool.false_eq_true, ↓reduceIte]
  rfl

def plainLoaded (armors : ArmorRef → TESObjectARMO) : PluginState :=
  messageHandler plainModule plainTrampoline plainEnvironment (some .kDataLoaded)
    (plainActive armors)

theorem plain_run (armors : ArmorRef → TESObjectARMO) :
    runFrom (step plainModule plainTrampoline) (.initial plainMemory armors)
      [.message plainEnvironment (some .kPostPostLoad),
        .message plainEnvironment (some .kDataLoaded)] = some (plainLoaded armors) := by
  simp only [runFrom, plain_postPostLoad, Option.bind_some]
  rfl

end FittingSchlongs.Plugin
