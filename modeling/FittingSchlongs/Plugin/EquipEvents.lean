import FittingSchlongs.Correction.Queries
import FittingSchlongs.Plugin.Machine

/-! # Which equip events queue a refresh

The event filter is a predicate of its own. An unmarked armor that can change the
correction set passes it; armor with a covering or revealing mark is left out on
purpose, also when the mark was written by the pass.
-/

namespace FittingSchlongs.Plugin
open Armor Correction Hooks Keywords Refresh Foundation.Transition

/-! ## What an armor contributes to the correction set -/

section Contribution

variable (game : GameData) (order : SetOrder TESObjectARMO) (gameDataLoaded : Bool)
  (actor : Actor) (worn : List TESObjectARMO) (armor : TESObjectARMO)

/-- The actor with other worn armors. -/
def wearing : Actor :=
  { actor with inventoryChanges := some (worn.map (fun a => some ⟨some (.armor a)⟩)) }

/-- The correction set with the armor added and the one with it removed differ. -/
def CorrectionDiffers : Prop :=
  (buildCorrectionSet game order gameDataLoaded (some (wearing actor (armor :: worn)))).active ≠
      (buildCorrectionSet game order gameDataLoaded
        (some (wearing actor (worn.filter (· ≠ armor))))).active ∨
    (buildCorrectionSet game order gameDataLoaded
        (some (wearing actor (armor :: worn)))).hiddenArmorFormIDs ≠
      (buildCorrectionSet game order gameDataLoaded
        (some (wearing actor (worn.filter (· ≠ armor))))).hiddenArmorFormIDs

instance : Decidable (CorrectionDiffers game order gameDataLoaded actor worn armor) :=
  inferInstanceAs (Decidable (_ ∨ _))

theorem wornArmors_wearing : wornArmors (wearing actor worn) = worn := by
  simp only [wornArmors, wearing, visitedArmors, List.filterMap_map]
  exact List.filterMap_some

variable {game actor worn armor}

theorem exists_worn_iff {p : TESObjectARMO → Prop} (h : ¬ p armor) :
    (∃ a ∈ armor :: worn, p a) ↔ ∃ a ∈ worn.filter (· ≠ armor), p a := by
  simp only [List.mem_cons, List.mem_filter, decide_eq_true_eq, exists_eq_or_imp, h, false_or]
  apply exists_congr
  intro a
  constructor
  · rintro ⟨ha, hp⟩
    exact ⟨⟨ha, fun heq => h (heq ▸ hp)⟩, hp⟩
  · rintro ⟨⟨ha, -⟩, hp⟩
    exact ⟨ha, hp⟩

theorem not_correctionDiffers (hgenital : isSosTngGenitalArmor game armor = false)
    (hreveal : shouldRevealGenitals game (some actor) armor = false)
    (hconceal : shouldConcealGenitals game (some actor) armor = false) :
    ¬ CorrectionDiffers game order gameDataLoaded actor worn armor := by
  have hgenitals : ∀ p : TESObjectARMO → Prop,
      (∃ a ∈ armor :: worn, isSosTngGenitalArmor game a = true ∧ p a) ↔
        ∃ a ∈ worn.filter (· ≠ armor), isSosTngGenitalArmor game a = true ∧ p a := fun p =>
    exists_worn_iff fun h => by simp [hgenital] at h
  have hgenitalWorn : GenitalWorn game (armor :: worn) ↔
      GenitalWorn game (worn.filter (· ≠ armor)) :=
    exists_worn_iff fun h => by simp [hgenital] at h
  have hrevealDemanded : RevealDemanded game actor (armor :: worn) ↔
      RevealDemanded game actor (worn.filter (· ≠ armor)) :=
    exists_worn_iff fun h => by simp [hreveal] at h
  have hconcealDemanded : ConcealDemanded game actor (armor :: worn) ↔
      ConcealDemanded game actor (worn.filter (· ≠ armor)) :=
    exists_worn_iff fun h => by simp [hconceal] at h
  rintro (hactive | hhidden)
  · apply hactive
    rw [Bool.eq_iff_iff, buildCorrectionSet_active, buildCorrectionSet_active, wornArmors_wearing,
      wornArmors_wearing]
    change _ ∧ _ ∧ (RevealDemanded game actor _ ∨ ConcealDemanded game actor _) ↔
      _ ∧ _ ∧ (RevealDemanded game actor _ ∨ ConcealDemanded game actor _)
    rw [hgenitalWorn, hrevealDemanded, hconcealDemanded]
  · apply hhidden
    ext id
    rw [mem_hiddenArmorFormIDs, mem_hiddenArmorFormIDs, wornArmors_wearing, wornArmors_wearing]
    change _ ∧ ConcealDemanded game actor _ ∧ _ ↔ _ ∧ ConcealDemanded game actor _ ∧ _
    rw [hconcealDemanded, hgenitals]

theorem asks_nothing_of_irrelevant (hgenital : isSosTngGenitalArmor game armor = false)
    (hcovering : isGenitalCoveringArmor game (some actor) armor = false)
    (hrevealing : isGenitalRevealingArmor game (some actor) armor = false)
    (h : isCorrectionRelevantArmor game (some actor) armor = false) :
    shouldRevealGenitals game (some actor) armor = false ∧
      shouldConcealGenitals game (some actor) armor = false := by
  simp only [isCorrectionRelevantArmor, hgenital, hcovering, hrevealing, Bool.or_self,
    Bool.false_eq_true, ↓reduceIte, Bool.or_eq_false_iff] at h
  obtain ⟨⟨hbody, hslot⟩, hpelvis⟩ := h
  have hupper : isLikelyUpperOnlyBodyArmor game armor = false := by
    rw [hasDisplaySlot_eq] at hbody
    simp [isLikelyUpperOnlyBodyArmor, hbody]
  simp [shouldRevealGenitals, shouldConcealGenitals, hgenital, hcovering, hrevealing, hupper, hbody,
    hslot, hpelvis]

end Contribution

/-! ## The event -/

/-- The step adds one task, for the actor. -/
def QueuesRefresh (actor : Actor) (s t : PluginState) : Prop :=
  ∃ task, task.actorFormID = actor.formID ∧ t.queue.tasks = s.queue.tasks ++ [task]

section Event

variable {env : Environment} {event : TESEquipEvent} {s : PluginState} {actor : Actor} {r : ArmorRef}

theorem processEvent_named (hloaded : s.gameDataLoaded = true) (hbase : event.baseObject ≠ 0)
    (hlookup : env.lookupArmor event.baseObject = some r)
    (hactor : event.actor = some (.actor actor)) :
    processEvent env (some event) s =
      if isCorrectionRelevantArmor env.game (some actor) (s.armors r) then
        queueRefreshFor env (some actor) s
      else s := by
  simp only [processEvent, hloaded, hbase, hlookup, hactor, Bool.not_true, decide_false,
    Bool.or_self, Bool.false_eq_true, ↓reduceIte, Option.map_some, Option.bind_some,
    TESObjectREFR.asActor]

theorem queuesRefresh_iff (hloaded : s.gameDataLoaded = true) (hbase : event.baseObject ≠ 0)
    (hlookup : env.lookupArmor event.baseObject = some r)
    (hactor : event.actor = some (.actor actor)) (hid : actor.formID ≠ 0)
    (htask : env.taskInterface = true) :
    QueuesRefresh actor s (processEvent env (some event) s) ↔
      isCorrectionRelevantArmor env.game (some actor) (s.armors r) = true := by
  rw [processEvent_named hloaded hbase hlookup hactor]
  split_ifs with hrelevant
  · refine iff_of_true ⟨⟨actor.formID, s.queue.refreshGeneration,
      s.queue.nextActorGeneration actor.formID⟩, rfl, ?_⟩ hrelevant
    simp only [queueRefreshFor, Refresh.queueRefreshFor, hid, htask, ↓reduceIte, Bool.not_true,
      Bool.false_eq_true]
    rfl
  · refine iff_of_false ?_ hrelevant
    rintro ⟨task, -, htasks⟩
    have hlength := congrArg List.length htasks
    simp at hlength

/-- An equip change that flips the correction queues a refresh exactly when the armor has
neither a covering nor a revealing mark for the actor. -/
theorem equip_flip_refreshes_iff (hloaded : s.gameDataLoaded = true)
    (hbase : event.baseObject ≠ 0) (hlookup : env.lookupArmor event.baseObject = some r)
    (hactor : event.actor = some (.actor actor)) (hid : actor.formID ≠ 0)
    (htask : env.taskInterface = true) (order : SetOrder TESObjectARMO)
    (worn : List TESObjectARMO) (hgenital : isSosTngGenitalArmor env.game (s.armors r) = false)
    (hdiffers : CorrectionDiffers env.game order s.gameDataLoaded actor worn (s.armors r)) :
    QueuesRefresh actor s (processEvent env (some event) s) ↔
      isGenitalCoveringArmor env.game (some actor) (s.armors r) = false ∧
        isGenitalRevealingArmor env.game (some actor) (s.armors r) = false := by
  rw [queuesRefresh_iff hloaded hbase hlookup hactor hid htask]
  constructor
  · intro hrelevant
    simp only [isCorrectionRelevantArmor, hgenital, Bool.false_eq_true, ↓reduceIte] at hrelevant
    split_ifs at hrelevant with hmarked
    simpa using hmarked
  · rintro ⟨hcovering, hrevealing⟩
    by_contra hirrelevant
    obtain ⟨hreveal, hconceal⟩ := asks_nothing_of_irrelevant hgenital hcovering hrevealing
      (by simpa using hirrelevant)
    exact not_correctionDiffers order s.gameDataLoaded hgenital hreveal hconceal hdiffers

end Event

/-- Putting on an unmarked dress over genital armor queues a refresh. -/
theorem equip_flip_refreshes_iff_dress :
    QueuesRefresh (plainActor 0x14 true []) (plainLoaded fun _ => plainArmor 1 "Dress" bodySlotMask)
      (processEvent plainEnvironment (some ⟨some (.actor (plainActor 0x14 true [])), 1⟩)
        (plainLoaded fun _ => plainArmor 1 "Dress" bodySlotMask)) := by
  refine (equip_flip_refreshes_iff rfl (by decide) (rfl : _ = some 0) rfl (by decide) rfl
    SetOrder.dedup [plainArmor 2 "Schlong" genitalSlotMask] (by decide) ?_).mpr
    (by decide)
  decide

/-- The bikini of the plain session got its covering mark from the pass, and putting it
on over genital armor queues nothing. -/
theorem marked_bikini_not_refreshed :
    ¬ ∀ (rel : Module) (trampoline : BranchWriter) (memory : MemoryImage)
        (armors : ArmorRef → TESObjectARMO) (actions : List Action) (s : PluginState),
      runFrom (step rel trampoline) (.initial memory armors) actions = some s →
      s.gameDataLoaded = true →
      ∀ (env : Environment) (actor : Actor) (r : ArmorRef) (order : SetOrder TESObjectARMO)
        (worn : List TESObjectARMO), isSosTngGenitalArmor env.game (s.armors r) = false →
      CorrectionDiffers env.game order s.gameDataLoaded actor worn (s.armors r) →
      isCorrectionRelevantArmor env.game (some actor) (s.armors r) = true := by
  intro h
  have hdiffers : CorrectionDiffers taggedGame SetOrder.dedup true (plainActor 0x14 true [])
      [plainArmor 2 "Schlong" genitalSlotMask] ((plainLoaded plainArmors).armors 0) := by
    decide
  have hrelevant := h plainModule plainTrampoline plainMemory plainArmors _ _
    (plain_run plainArmors) rfl plainEnvironment (plainActor 0x14 true []) 0 SetOrder.dedup
    [plainArmor 2 "Schlong" genitalSlotMask] (by decide) hdiffers
  have hirrelevant : isCorrectionRelevantArmor taggedGame (some (plainActor 0x14 true []))
      ((plainLoaded plainArmors).armors 0) = false := by decide
  exact Bool.false_ne_true (hirrelevant.symm.trans hrelevant)

end FittingSchlongs.Plugin
