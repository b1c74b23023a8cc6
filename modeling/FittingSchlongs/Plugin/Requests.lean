import FittingSchlongs.Plugin.Effects
import FittingSchlongs.Plugin.EquipEvents

/-! # From a request to the update

Every queued task comes from one request of a load message or an equip event. Running it
reaches its actor exactly while no invalidation and no other request of the actor came in
between, so of the requests since the last invalidation the latest is never lost.
-/

namespace FittingSchlongs.Plugin
open Armor Correction Hooks Keywords Refresh Foundation.Transition

/-- The action asks for a refresh of the actor. -/
def Requests (actorFormID : FormID) (s : PluginState) (a : Action) : Prop :=
  ∃ actor ∈ requestedActor s a, actor.formID ≠ 0 ∧ actor.formID = actorFormID

/-- The action ends the validity of the actor's queued tasks. -/
def EndsTasks (actorFormID : FormID) (s : PluginState) (a : Action) : Prop :=
  Invalidates s a ∨ Requests actorFormID s a

/-- Running the task calls `RefreshFor` on the actor, with the game data loaded. -/
def Reaches (s : PluginState) (k : ℕ) (actorFormID : FormID) : Prop :=
  ∀ env, updatedActor s (.runTask env k) = refreshFor true (env.lookupActor actorFormID)

section Step

variable {rel : Module} {trampoline : BranchWriter} {s t : PluginState} {a : Action}

theorem requests_iff {actorFormID : FormID} :
    Requests actorFormID s a ↔ (queueEffect s a).asked = some actorFormID := by
  rw [QueueEffect.asked_eq_some_iff]
  rfl

theorem endsTasks_iff {actorFormID : FormID} :
    EndsTasks actorFormID s a ↔ (queueEffect s a).Supersedes actorFormID :=
  or_congr invalidates_iff.symm requests_iff

theorem loaded_of_requestedActor {actor : Actor} (hactor : requestedActor s a = some actor)
    (h : step rel trampoline s a = some t) : t.gameDataLoaded = true := by
  rw [(effects_step h).loaded]
  cases a with
  | message env message =>
    cases message with
    | none => exact absurd hactor.symm (Option.some_ne_none actor)
    | some type =>
      cases type with
      | kDataLoaded =>
        simp only [requestedActor] at hactor
        split_ifs at hactor with haway
        simp [appliedPass, haway]
      | kPostLoadGame =>
        simp only [requestedActor] at hactor
        split_ifs at hactor with haway
        simp [appliedPass, haway]
      | kPostPostLoad => exact absurd hactor.symm (Option.some_ne_none actor)
      | kPreLoadGame => exact absurd hactor.symm (Option.some_ne_none actor)
      | other type => exact absurd hactor.symm (Option.some_ne_none actor)
  | equip env event =>
    have hloaded : s.gameDataLoaded = true := by
      by_contra hunloaded
      cases event <;> simp [requestedActor, relevantActor, hunloaded] at hactor
    simp [hloaded, isPreLoadGame]
  | runTask env task => exact absurd hactor.symm (Option.some_ne_none actor)

theorem loaded_step (hs : s.gameDataLoaded = true) (ha : ¬ Invalidates s a)
    (h : step rel trampoline s a = some t) : t.gameDataLoaded = true := by
  rw [(effects_step h).loaded, hs]
  have hpre : isPreLoadGame a = false := by
    by_contra hpre
    apply ha
    rw [← invalidates_iff]
    cases a with
    | message env message =>
      cases message with
      | none => simp [isPreLoadGame] at hpre
      | some type => cases type <;> simp [isPreLoadGame, invalidates] at hpre ⊢
    | equip env event => simp [isPreLoadGame] at hpre
    | runTask env task => simp [isPreLoadGame] at hpre
  simp [hpre]

end Step

section Run

variable {rel : Module} {trampoline : BranchWriter} {s t : PluginState} {actions : List Action}

theorem updatedActor_runTask {k : ℕ} {task : RefreshTask ℕ} (htask : s.queue.tasks[k]? = some task)
    (env : Environment) : updatedActor s (.runTask env k) =
      if taskPasses s.queue task then refreshFor s.gameDataLoaded (env.lookupActor task.actorFormID)
      else none := by
  simp only [updatedActor, htask, Option.bind_some, runRefreshTask]
  cases taskPasses s.queue task <;> rfl

/-- What a request has queued reaches its actor while nothing ends it, and nobody afterwards. -/
theorem request_reaches_iff (hs : ∃ slots, Refines slots s.queue) {a : Action} {u : PluginState}
    {actorFormID : FormID} (hrequest : Requests actorFormID s a) (htask : hasTaskInterface a = true)
    (h : step rel trampoline s a = some u) (hrun : runFrom (step rel trampoline) u actions = some t) :
    ∃ task, t.queue.tasks[s.queue.tasks.length]? = some task ∧ task.actorFormID = actorFormID ∧
      (taskPasses t.queue task = true ↔
        Along (step rel trampoline) (fun w b => ¬ EndsTasks actorFormID w b) u actions) ∧
      (Along (step rel trampoline) (fun w b => ¬ EndsTasks actorFormID w b) u actions →
        Reaches t s.queue.tasks.length actorFormID) ∧
      (¬ Along (step rel trampoline) (fun w b => ¬ EndsTasks actorFormID w b) u actions →
        ∀ env, updatedActor t (.runTask env s.queue.tasks.length) = none) := by
  obtain ⟨task, hstill, hsame, hiff⟩ := (plugin_drives rel trampoline).request_passes_iff hs
    (requests_iff.mp hrequest) htask h hrun
  simp only [← endsTasks_iff] at hiff
  refine ⟨task, hstill, hsame, hiff, ?_, ?_⟩
  · intro hkept env
    obtain ⟨actor, hactor, -, -⟩ := hrequest
    have hstep : ∀ w b x, ¬ EndsTasks actorFormID w b → w.gameDataLoaded = true →
        step rel trampoline w b = some x → x.gameDataLoaded = true :=
      fun _ _ _ hb hw hx => loaded_step hw (not_or.mp hb).1 hx
    have hloaded := invariant_of_along hstep hkept (loaded_of_requestedActor hactor h) hrun
    rw [updatedActor_runTask hstill env, if_pos (hiff.mpr hkept), hloaded, hsame]
  · intro hended env
    rw [updatedActor_runTask hstill env, if_neg fun hnow => hended (hiff.mp hnow)]

end Run

/-! ## Runs of the plugin -/

section Session

variable {rel : Module} {trampoline : BranchWriter} {memory : MemoryImage}
  {armors : ArmorRef → TESObjectARMO} {actions : List Action} {s : PluginState}

theorem refines_reached
    (hrun : runFrom (step rel trampoline) (.initial memory armors) actions = some s) :
    ∃ slots, Refines slots s.queue :=
  (plugin_drives rel trampoline).refines_run ⟨_, refines_initial⟩ hrun

/-- Every queued task was added by exactly one step, which asked for an actor's refresh. Running
it reaches that actor unless an action has since invalidated or asked for the actor again, and
then it updates nobody. -/
theorem refresh_exact
    (hrun : runFrom (step rel trampoline) (.initial memory armors) actions = some s) {k : ℕ}
    (hk : k < s.queue.tasks.length) :
    ∃ u a v after actorFormID,
      StepIn (step rel trampoline) (.initial memory armors) actions u a v after ∧
      u.queue.tasks.length = k ∧ v.queue.tasks.length = k + 1 ∧ Requests actorFormID u a ∧
      (∀ u' a' v' after',
        StepIn (step rel trampoline) (.initial memory armors) actions u' a' v' after' →
        u'.queue.tasks.length ≤ k → k < v'.queue.tasks.length →
        u' = u ∧ a' = a ∧ v' = v ∧ after' = after) ∧
      (Along (step rel trampoline) (fun w b => ¬ EndsTasks actorFormID w b) v after →
        Reaches s k actorFormID) ∧
      (¬ Along (step rel trampoline) (fun w b => ¬ EndsTasks actorFormID w b) v after →
        ∀ env, updatedActor s (.runTask env k) = none) := by
  obtain ⟨u, a, v, after, actorFormID, hin, rfl, hadded, hasked, htask⟩ :=
    (plugin_drives rel trampoline).exists_request hrun (Nat.zero_le k) hk
  have hrequest := requests_iff.mpr hasked
  obtain ⟨before, -, hbefore, hstep⟩ := id hin
  obtain ⟨task, -, -, -, hreaches, hended⟩ := request_reaches_iff (refines_reached hbefore) hrequest
    htask hstep (hin.runFrom_after hrun)
  refine ⟨u, a, v, after, actorFormID, hin, rfl, hadded, hrequest, ?_, hreaches, hended⟩
  intro u' a' v' after' hin' hu' hv'
  have hgrows : ∀ w b x, u.queue.tasks.length < w.queue.tasks.length →
      step rel trampoline w b = some x → u.queue.tasks.length < x.queue.tasks.length :=
    fun _ _ _ hw hx => hw.trans_le ((plugin_drives rel trampoline).advances_step hx).tasks.length_le
  exact beginning_unique hgrows hrun hin' (Nat.not_lt.mpr hu') hv' hin (Nat.lt_irrefl _) (by omega)

/-- The task is pending and reaches the actor, or has reached it after all requests so far. -/
def PendingOrServed (rel : Module) (trampoline : BranchWriter) (initial : PluginState)
    (actions : List Action) (s : PluginState) (actorFormID : FormID) (k : ℕ) : Prop :=
  k < s.queue.tasks.length ∧ k ∉ s.executed ∧ Reaches s k actorFormID ∨
    ∃ u env v after, StepIn (step rel trampoline) initial actions u (.runTask env k) v after ∧
      Reaches u k actorFormID ∧
      Along (step rel trampoline) (fun w b => ¬ Requests actorFormID w b) v after

theorem pendingOrServed_of_request
    (hrun : runFrom (step rel trampoline) (.initial memory armors) actions = some s)
    {u v : PluginState} {a : Action} {after : List Action}
    (hin : StepIn (step rel trampoline) (.initial memory armors) actions u a v after)
    {actorFormID : FormID} (hrequest : Requests actorFormID u a) (htask : hasTaskInterface a = true)
    (hkept : Along (step rel trampoline) (fun w b => ¬ EndsTasks actorFormID w b) v after) :
    PendingOrServed rel trampoline (.initial memory armors) actions s actorFormID
      u.queue.tasks.length := by
  have hdrives := plugin_drives rel trampoline
  obtain ⟨before, -, hbefore, hstep⟩ := id hin
  have hafter := hin.runFrom_after hrun
  have hu := refines_reached hbefore
  by_cases hexecuted : u.queue.tasks.length ∈ s.executed
  · have hqueued := hdrives.executed_lt_run (fun _ h => absurd h List.not_mem_nil) hbefore
    obtain ⟨w, b, x, later, hran, hb⟩ :=
      hdrives.exists_ran hafter (hdrives.not_executed_step hqueued hstep) hexecuted
    obtain ⟨env, rfl⟩ : ∃ env, b = .runTask env u.queue.tasks.length := by
      cases b with
      | message env message => exact absurd hb.symm (Option.some_ne_none _)
      | equip env event => exact absurd hb.symm (Option.some_ne_none _)
      | runTask env task =>
        obtain rfl := Option.some.inj hb
        exact ⟨env, rfl⟩
    obtain ⟨between, rfl, hbetween, -⟩ := id hran
    obtain ⟨-, -, -, -, hreaches, -⟩ := request_reaches_iff hu hrequest htask hstep hbetween
    refine Or.inr ⟨w, env, x, later, hin.trans hran, ?_, ?_⟩
    · exact hreaches (hkept.of_append hbetween).1
    · exact (hkept.behind hran).mono fun _ _ h => (not_or.mp h).2
  · obtain ⟨task, hstill, -, -, hreaches, -⟩ := request_reaches_iff hu hrequest htask hstep hafter
    exact Or.inl ⟨(List.getElem?_eq_some_iff.mp hstill).1, hexecuted, hreaches hkept⟩

/-- With the task interface there and no invalidation, the latest request of an actor has a task
that is pending or has served it, and no other task of the actor passes. -/
theorem latest_request_kept
    (hrun : runFrom (step rel trampoline) (.initial memory armors) actions = some s)
    {actorFormID : FormID}
    {u v : PluginState} {a : Action} {after : List Action}
    (hin : StepIn (step rel trampoline) (.initial memory armors) actions u a v after)
    (hrequest : Requests actorFormID u a)
    (hkept : Along (step rel trampoline) (fun w b => ¬ Invalidates w b) v after)
    (htasks : ∀ b ∈ actions, hasTaskInterface b = true) :
    ∃ k, PendingOrServed rel trampoline (.initial memory armors) actions s actorFormID k ∧
      ∀ (j : ℕ) task, s.queue.tasks[j]? = some task → task.actorFormID = actorFormID →
        taskPasses s.queue task = true → j = k := by
  obtain ⟨u, a, v, after, hin, hrequest, hlast⟩ :=
    hin.exists_last (p := Requests actorFormID) hrun hrequest hkept
  have htask := htasks a hin.mem
  refine ⟨_, pendingOrServed_of_request hrun hin hrequest htask hlast, ?_⟩
  obtain ⟨before, -, hbefore, hstep⟩ := id hin
  obtain ⟨latest, hlatest, hsame, hpasses, -⟩ := request_reaches_iff (refines_reached hbefore)
    hrequest htask hstep (hin.runFrom_after hrun)
  obtain ⟨slots, hs⟩ := refines_reached hrun
  intro j task hj hactor hnow
  exact hs.unique hj hlatest (hactor.trans hsame.symm) hnow (hpasses.mpr hlast)

/-! ## Flips of the correction -/

theorem requests_of_flip {env : Environment} {event : TESEquipEvent} {actor : Actor} {r : ArmorRef}
    (hloaded : s.gameDataLoaded = true) (hbase : event.baseObject ≠ 0)
    (hlookup : env.lookupArmor event.baseObject = some r)
    (hactor : event.actor = some (.actor actor)) (hid : actor.formID ≠ 0)
    {order : SetOrder TESObjectARMO} {worn : List TESObjectARMO}
    (hgenital : isSosTngGenitalArmor env.game (s.armors r) = false)
    (hcovering : isGenitalCoveringArmor env.game (some actor) (s.armors r) = false)
    (hrevealing : isGenitalRevealingArmor env.game (some actor) (s.armors r) = false)
    (hdiffers : CorrectionDiffers env.game order s.gameDataLoaded actor worn (s.armors r)) :
    Requests actor.formID s (.equip env (some event)) := by
  have hrelevant : isCorrectionRelevantArmor env.game (some actor) (s.armors r) = true := by
    by_contra hirrelevant
    rw [Bool.not_eq_true] at hirrelevant
    obtain ⟨hreveal, hconceal⟩ :=
      asks_nothing_of_irrelevant hgenital hcovering hrevealing hirrelevant
    exact not_correctionDiffers order s.gameDataLoaded hgenital hreveal hconceal hdiffers
  refine ⟨actor, ?_, hid, rfl⟩
  simp only [requestedActor, relevantActor, hloaded, hbase, hlookup, hactor, hrelevant,
    Bool.not_true, decide_false, Bool.or_self, Bool.false_eq_true, ↓reduceIte, Option.map_some,
    Option.bind_some, TESObjectREFR.asActor, Option.mem_def]

/-- No flip of the correction by unmarked armor is lost with the task interface there: until the next
invalidation the actor has a task that is pending or has served it since. -/
theorem flip_kept
    (hrun : runFrom (step rel trampoline) (.initial memory armors) actions = some s)
    {u v : PluginState} {env : Environment} {event : TESEquipEvent} {after : List Action}
    (hin : StepIn (step rel trampoline) (.initial memory armors) actions u
      (.equip env (some event)) v after)
    (hloaded : u.gameDataLoaded = true) (hbase : event.baseObject ≠ 0) {r : ArmorRef}
    (hlookup : env.lookupArmor event.baseObject = some r) {actor : Actor}
    (hactor : event.actor = some (.actor actor)) (hid : actor.formID ≠ 0)
    (order : SetOrder TESObjectARMO) (worn : List TESObjectARMO)
    (hgenital : isSosTngGenitalArmor env.game (u.armors r) = false)
    (hcovering : isGenitalCoveringArmor env.game (some actor) (u.armors r) = false)
    (hrevealing : isGenitalRevealingArmor env.game (some actor) (u.armors r) = false)
    (hdiffers : CorrectionDiffers env.game order u.gameDataLoaded actor worn (u.armors r))
    (hkept : Along (step rel trampoline) (fun w b => ¬ Invalidates w b) v after)
    (htasks : ∀ b ∈ actions, hasTaskInterface b = true) :
    ∃ k, PendingOrServed rel trampoline (.initial memory armors) actions s actor.formID k := by
  have hasked := requests_of_flip hloaded hbase hlookup hactor hid hgenital hcovering hrevealing
    hdiffers
  obtain ⟨u', b, v', after', hlatest, hrequest, hlast⟩ :=
    hin.exists_last (p := Requests actor.formID) hrun hasked hkept
  exact ⟨_, pendingOrServed_of_request hrun hlatest hrequest (htasks b hlatest.mem) hlast⟩

end Session

/-! ## The plain session again -/

def plainStart : List Action :=
  [.message plainEnvironment (some .kPostPostLoad), .message plainEnvironment (some .kDataLoaded)]

theorem plain_requests (armors : ArmorRef → TESObjectARMO) (after : List Action) :
    StepIn (step plainModule plainTrampoline) (.initial plainMemory armors) (plainStart ++ after)
      (plainActive armors) (.message plainEnvironment (some .kDataLoaded)) (plainLoaded armors)
      after := by
  refine ⟨[.message plainEnvironment (some .kPostPostLoad)], rfl, ?_, rfl⟩
  simp only [runFrom, plain_postPostLoad, Option.bind_some]

/-- The task of the player behind an event without armor, and behind the next load. -/
theorem refresh_exact_player :
    Reaches (plainLoaded plainArmors) 0 0x14 ∧
      ∀ env, updatedActor (messageHandler plainModule plainTrampoline plainEnvironment
        (some .kPreLoadGame) (plainLoaded plainArmors)) (.runTask env 0) = none := by
  have hplayer : ∀ after s, runFrom (step plainModule plainTrampoline) (plainLoaded plainArmors)
      after = some s → 0 < s.queue.tasks.length →
      (Along (step plainModule plainTrampoline) (fun w b => ¬ EndsTasks 0x14 w b)
        (plainLoaded plainArmors) after → Reaches s 0 0x14) ∧
      (¬ Along (step plainModule plainTrampoline) (fun w b => ¬ EndsTasks 0x14 w b)
        (plainLoaded plainArmors) after → ∀ env, updatedActor s (.runTask env 0) = none) := by
    intro after s hafter hqueued
    obtain ⟨u, a, v, rest, actorFormID, -, -, -, hrequest, hunique, hdecided⟩ := refresh_exact
      (runFrom_append_iff.mpr ⟨_, plain_run plainArmors, hafter⟩) hqueued
    obtain ⟨rfl, rfl, rfl, rfl⟩ :=
      hunique _ _ _ _ (plain_requests plainArmors after) (by decide) (by decide)
    obtain ⟨actor, hactor, -, rfl⟩ := hrequest
    obtain rfl : plainActor 0x14 true [] = actor := Option.some.inj hactor
    exact hdecided
  constructor
  · refine (hplayer [.equip plainEnvironment none] _ rfl (by decide)).1 ⟨?_, fun _ _ => trivial⟩
    simp [EndsTasks, Invalidates, Requests, requestedActor, relevantActor]
  · refine (hplayer [.message plainEnvironment (some .kPreLoadGame)] _ rfl (by decide)).2 ?_
    exact fun hkept => hkept.1 (Or.inl ⟨plainEnvironment, Or.inl rfl⟩)

def plainDress : ArmorRef → TESObjectARMO := fun _ => plainArmor 1 "Dress" bodySlotMask

def dressEvent : TESEquipEvent := ⟨some (.actor (plainActor 0x14 true [])), 1⟩

/-- The player puts on the dress, and both tasks run. -/
def dressedActions : List Action :=
  [.equip plainEnvironment (some dressEvent), .runTask plainEnvironment 0,
    .runTask plainEnvironment 1]

def plainDressed : PluginState :=
  { processEvent plainEnvironment (some dressEvent) (plainLoaded plainDress) with
    executed := [1, 0] }

theorem plain_dressed : runFrom (step plainModule plainTrampoline)
    (.initial plainMemory plainDress) (plainStart ++ dressedActions) = some plainDressed :=
  runFrom_append_iff.mpr ⟨plainLoaded plainDress, plain_run plainDress, rfl⟩

/-- The dress takes over the request of the loaded data. -/
theorem latest_request_kept_player :
    ∃ k, PendingOrServed plainModule plainTrampoline (.initial plainMemory plainDress)
        (plainStart ++ dressedActions) plainDressed 0x14 k ∧
      ∀ (j : ℕ) task, plainDressed.queue.tasks[j]? = some task → task.actorFormID = 0x14 →
        taskPasses plainDressed.queue task = true → j = k := by
  have hrequest : Requests 0x14 (plainActive plainDress)
      (.message plainEnvironment (some .kDataLoaded)) := ⟨_, rfl, by decide, rfl⟩
  exact latest_request_kept plain_dressed (plain_requests plainDress _) hrequest
    (by simp [Along, dressedActions, Invalidates]) (by decide)

/-- The dress is put on over genital armor. -/
theorem flip_kept_dress :
    ∃ k, PendingOrServed plainModule plainTrampoline (.initial plainMemory plainDress)
      (plainStart ++ dressedActions) plainDressed 0x14 k := by
  have hin : StepIn (step plainModule plainTrampoline) (.initial plainMemory plainDress)
      (plainStart ++ dressedActions) (plainLoaded plainDress)
      (.equip plainEnvironment (some dressEvent))
      (processEvent plainEnvironment (some dressEvent) (plainLoaded plainDress))
      [.runTask plainEnvironment 0, .runTask plainEnvironment 1] :=
    ⟨plainStart, rfl, plain_run plainDress, rfl⟩
  exact flip_kept plain_dressed hin rfl (by decide) (rfl : _ = some 0) rfl (by decide)
    SetOrder.dedup [plainArmor 2 "Schlong" genitalSlotMask] (by decide) (by decide) (by decide)
    (by decide) (by simp [Along, Invalidates]) (by decide)

end FittingSchlongs.Plugin
