import FittingSchlongs.Correction.CorrectionSet

/-! # The queries of the skinning hooks

The three hooks ask whether skinning is overridden, whether one armor is
blocked, which slots count as worn and which worn entries a visitor sees. Each
builds its own correction set; for one worn state they all hide the same armors.
-/

namespace FittingSchlongs.Correction
open Armor

/-! ## Item visitors -/

/-- `RE::BSContainer::ForEachResult`. -/
inductive ForEachResult where
  | kStop
  | kContinue
  deriving DecidableEq

/-- `IItemChangeVisitor` with its state made explicit. The third entry point also
returns what is left behind its `bool *` argument. -/
structure IItemChangeVisitor (σ : Type) where
  visit : Option InventoryEntryData → σ → ForEachResult × σ
  shouldVisit : Option InventoryEntryData → Option TESBoundObject → σ → Bool × σ
  unk03 : Option InventoryEntryData → BitVec 64 → Option Bool → σ →
    ForEachResult × Option Bool × σ

/-- Skip some entries and leave the others to the wrapped visitor. -/
def IItemChangeVisitor.skipping {σ : Type} (visitor : IItemChangeVisitor σ)
    (shouldSkip : Option InventoryEntryData → Bool) : IItemChangeVisitor σ where
  visit entryData s := if shouldSkip entryData then (.kContinue, s) else visitor.visit entryData s
  shouldVisit entryData object s :=
    if shouldSkip entryData then (false, s) else visitor.shouldVisit entryData object s
  unk03 entryData arg2 arg3 s :=
    if shouldSkip entryData then (.kContinue, arg3.map (fun _ => true), s)
    else visitor.unk03 entryData arg2 arg3 s

def hiddenGenitalFilterVisitor {σ : Type} (set : CorrectionSet) (visitor : IItemChangeVisitor σ) :
    IItemChangeVisitor σ :=
  visitor.skipping (fun entryData => shouldHideArmor set (getEntryArmor entryData))

/-- `RE::InventoryChanges`: its owner and the worn entries. -/
structure InventoryChanges where
  owner : Option TESObjectREFR
  wornItems : WornItems

/-! ## The entry points -/

section Queries

variable (game : GameData) (order : SetOrder TESObjectARMO) (gameDataLoaded : Bool)

def shouldOverrideSkinning (target : Option TESObjectREFR) : Bool :=
  (buildCorrectionSet game order gameDataLoaded (target.bind TESObjectREFR.asActor)).active

def shouldBlockVanillaArmor (armor : Option TESObjectARMO) (target : Option TESObjectREFR) : Bool :=
  shouldHideArmor
    (buildCorrectionSet game order gameDataLoaded (target.bind TESObjectREFR.asActor)) armor

/-- The 64-bit correction mask is cut to 32 bits at each armor. -/
def collectVisibleWornSlotMask (target : Option TESObjectREFR) (set : CorrectionSet) : SlotMask :=
  (collectEquippedArmors order target).foldl
    (fun slotMask armor =>
      if shouldHideArmor set (some armor) then slotMask
      else slotMask ||| (getArmorCorrectionSlotMask game armor).setWidth 32)
    0

def getCorrectedWornMask (target : Option TESObjectREFR) (baseWornMask : SlotMask) : SlotMask :=
  let set := buildCorrectionSet game order gameDataLoaded (target.bind TESObjectREFR.asActor)
  if !set.active then baseWornMask else collectVisibleWornSlotMask game order target set

/-- `visitWornItems` is the original game function at the hooked call. -/
def visitWornItemsWithGenitalFilter {σ : Type} (inventory : Option InventoryChanges)
    (visitor : Option (IItemChangeVisitor σ)) (target : Option TESObjectREFR)
    (visitWornItems : Option (InventoryChanges → IItemChangeVisitor σ → σ → σ)) (s : σ) : σ :=
  match visitWornItems, inventory, visitor with
  | some visitWornItems, some inventory, some visitor =>
    let target := if target.isSome then target else inventory.owner
    let set := buildCorrectionSet game order gameDataLoaded (target.bind TESObjectREFR.asActor)
    if !set.active || decide (set.hiddenArmorFormIDs = ∅) then visitWornItems inventory visitor s
    else visitWornItems inventory (hiddenGenitalFilterVisitor set visitor) s
  | _, _, _ => s

end Queries

/-! ## Before the game data is loaded -/

/-- Every query answers as the unmodified game would. -/
structure AnswersVanilla (gameDataLoaded : Bool) : Prop where
  override : ∀ game order target, shouldOverrideSkinning game order gameDataLoaded target = false
  block : ∀ game order armor target,
    shouldBlockVanillaArmor game order gameDataLoaded armor target = false
  mask : ∀ game order target baseWornMask,
    getCorrectedWornMask game order gameDataLoaded target baseWornMask = baseWornMask
  visit : ∀ (game : GameData) (order : SetOrder TESObjectARMO) (σ : Type)
      (inventory : InventoryChanges) (visitor : IItemChangeVisitor σ)
      (target : Option TESObjectREFR)
      (visitWornItems : InventoryChanges → IItemChangeVisitor σ → σ → σ) (s : σ),
    visitWornItemsWithGenitalFilter game order gameDataLoaded (some inventory) (some visitor)
      target (some visitWornItems) s = visitWornItems inventory visitor s

theorem answersVanilla_unloaded : AnswersVanilla false where
  override game order target := by
    rw [shouldOverrideSkinning, buildCorrectionSet_unloaded]
    rfl
  block game order armor target := by
    rw [shouldBlockVanillaArmor, buildCorrectionSet_unloaded]
    cases armor <;> rfl
  mask game order target baseWornMask := by
    rw [getCorrectedWornMask, buildCorrectionSet_unloaded]
    rfl
  visit game order σ inventory visitor target visitWornItems s := by
    simp only [visitWornItemsWithGenitalFilter, buildCorrectionSet_unloaded]
    rfl

/-! ## One hidden set for all hooks -/

theorem IItemChangeVisitor.skipping_none {σ : Type} (visitor : IItemChangeVisitor σ)
    {shouldSkip : Option InventoryEntryData → Bool} (h : ∀ e, shouldSkip e = false) :
    visitor.skipping shouldSkip = visitor := by
  have hskip : shouldSkip = fun _ => false := funext h
  subst hskip
  rfl

theorem foldl_unless (hidden : TESObjectARMO → Bool) (mask : TESObjectARMO → SlotMask)
    (armors : List TESObjectARMO) (slotMask : SlotMask) :
    armors.foldl (fun m a => if hidden a then m else m ||| mask a) slotMask =
      (armors.filter (fun a => !hidden a)).foldl (fun m a => m ||| mask a) slotMask := by
  induction armors generalizing slotMask with
  | nil => rfl
  | cons a armors ih => cases ha : hidden a <;> simp [ha, ih]

/-- The visitor passes the entry over and keeps its state. -/
structure IItemChangeVisitor.PassesOver {σ : Type} (visitor : IItemChangeVisitor σ)
    (entryData : Option InventoryEntryData) : Prop where
  visit : ∀ s, visitor.visit entryData s = (.kContinue, s)
  shouldVisit : ∀ object s, visitor.shouldVisit entryData object s = (false, s)
  unk03 : ∀ arg2 arg3 s,
    visitor.unk03 entryData arg2 arg3 s = (.kContinue, arg3.map (fun _ => true), s)

/-- The visitor leaves the entry to the wrapped one. -/
structure IItemChangeVisitor.Forwards {σ : Type} (visitor wrapped : IItemChangeVisitor σ)
    (entryData : Option InventoryEntryData) : Prop where
  visit : visitor.visit entryData = wrapped.visit entryData
  shouldVisit : visitor.shouldVisit entryData = wrapped.shouldVisit entryData
  unk03 : visitor.unk03 entryData = wrapped.unk03 entryData

theorem IItemChangeVisitor.skipping_spec {σ : Type} (visitor : IItemChangeVisitor σ)
    (shouldSkip : Option InventoryEntryData → Bool) (entryData : Option InventoryEntryData) :
    if shouldSkip entryData then (visitor.skipping shouldSkip).PassesOver entryData
    else (visitor.skipping shouldSkip).Forwards visitor entryData := by
  split_ifs with hskip
  · constructor <;> intros <;> simp only [skipping, hskip, ↓reduceIte]
  · constructor <;> funext <;> simp only [skipping, hskip, ↓reduceIte, Bool.false_eq_true]

/-- Form IDs tell the listed armors apart. -/
def FormIDsIdentify (armors : List TESObjectARMO) : Prop :=
  ∀ a ∈ armors, ∀ b ∈ armors, a.formID = b.formID → a = b

instance (armors : List TESObjectARMO) : Decidable (FormIDsIdentify armors) :=
  inferInstanceAs (Decidable (∀ a ∈ armors, _))

section Agreement

variable (game : GameData) (order : SetOrder TESObjectARMO) (gameDataLoaded : Bool) (actor : Actor)

theorem shouldBlockVanillaArmor_eq (x : Option TESObjectARMO) :
    shouldBlockVanillaArmor game order gameDataLoaded x (some (.actor actor)) =
      shouldHideArmor (buildCorrectionSet game order gameDataLoaded (some actor)) x := rfl

theorem shouldHideArmor_iff (set : CorrectionSet) (x : TESObjectARMO) :
    shouldHideArmor set (some x) = true ↔ x.formID ∈ set.hiddenArmorFormIDs :=
  decide_eq_true_iff

theorem shouldOverrideSkinning_iff :
    shouldOverrideSkinning game order gameDataLoaded (some (.actor actor)) = true ↔
      gameDataLoaded = true ∧ GenitalWorn game (wornArmors actor) ∧
        (RevealDemanded game actor (wornArmors actor) ∨
          ConcealDemanded game actor (wornArmors actor)) :=
  buildCorrectionSet_active game order gameDataLoaded actor

theorem shouldBlockVanillaArmor_iff (x : TESObjectARMO)
    (hids : FormIDsIdentify (x :: wornArmors actor)) :
    shouldBlockVanillaArmor game order gameDataLoaded (some x) (some (.actor actor)) = true ↔
      gameDataLoaded = true ∧ x ∈ wornArmors actor ∧ isSosTngGenitalArmor game x = true ∧
        ConcealDemanded game actor (wornArmors actor) := by
  rw [shouldBlockVanillaArmor_eq, shouldHideArmor_iff, mem_hiddenArmorFormIDs]
  constructor
  · rintro ⟨hloaded, hconceal, a, ha, hga, hid⟩
    have hax : a = x := hids a (List.mem_cons_of_mem x ha) x List.mem_cons_self hid
    subst hax
    exact ⟨hloaded, ha, hga, hconceal⟩
  · rintro ⟨hloaded, hx, hgx, hconceal⟩
    exact ⟨hloaded, hconceal, x, hx, hgx, rfl⟩

theorem shouldOverrideSkinning_of_block (x : Option TESObjectARMO)
    (h : shouldBlockVanillaArmor game order gameDataLoaded x (some (.actor actor)) = true) :
    shouldOverrideSkinning game order gameDataLoaded (some (.actor actor)) = true := by
  cases x with
  | none => exact absurd h Bool.false_ne_true
  | some x =>
    rw [shouldBlockVanillaArmor_eq, shouldHideArmor_iff] at h
    exact active_of_mem_hidden game order gameDataLoaded actor h

/-- The active mask is the OR over the worn armors that are not blocked. -/
theorem getCorrectedWornMask_eq (baseWornMask : SlotMask) :
    getCorrectedWornMask game order gameDataLoaded (some (.actor actor)) baseWornMask =
      if shouldOverrideSkinning game order gameDataLoaded (some (.actor actor)) then
        ((collectEquippedArmors order (some (.actor actor))).filter (fun a =>
            !shouldBlockVanillaArmor game order gameDataLoaded (some a) (some (.actor actor)))).foldl
          (fun m a => m ||| (getArmorCorrectionSlotMask game a).setWidth 32) 0
      else baseWornMask := by
  cases hactive : shouldOverrideSkinning game order gameDataLoaded (some (.actor actor)) with
  | false =>
    have hset : (buildCorrectionSet game order gameDataLoaded (some actor)).active = false := hactive
    simp [getCorrectedWornMask, TESObjectREFR.asActor, hset]
  | true =>
    have hset : (buildCorrectionSet game order gameDataLoaded (some actor)).active = true := hactive
    simp only [getCorrectedWornMask, Option.bind_some, TESObjectREFR.asActor, hset, Bool.not_true,
      Bool.false_eq_true, ↓reduceIte]
    exact foldl_unless _ _ _ 0

/-- The visitor handed to the game skips exactly the entries of blocked armors. -/
theorem visitWornItemsWithGenitalFilter_eq {σ : Type} (inventory : InventoryChanges)
    (visitor : IItemChangeVisitor σ)
    (visitWornItems : InventoryChanges → IItemChangeVisitor σ → σ → σ) (s : σ) :
    visitWornItemsWithGenitalFilter game order gameDataLoaded (some inventory) (some visitor)
        (some (.actor actor)) (some visitWornItems) s =
      visitWornItems inventory (visitor.skipping (fun entryData =>
        shouldBlockVanillaArmor game order gameDataLoaded (getEntryArmor entryData)
          (some (.actor actor)))) s := by
  simp only [visitWornItemsWithGenitalFilter, Option.isSome_some, ↓reduceIte, Option.bind_some,
    TESObjectREFR.asActor, shouldBlockVanillaArmor_eq]
  split_ifs with hnone
  · rw [IItemChangeVisitor.skipping_none]
    intro entryData
    cases hentry : getEntryArmor entryData with
    | none => rfl
    | some x =>
      -- An inactive set hides nothing, and neither does one with no form IDs.
      rw [Bool.eq_false_iff, ne_eq, shouldHideArmor_iff]
      intro hx
      have hactive := active_of_mem_hidden game order gameDataLoaded actor hx
      simp only [hactive, Bool.not_true, Bool.false_or, decide_eq_true_eq] at hnone
      rw [hnone] at hx
      exact Finset.notMem_empty _ hx
  · rfl

/-- The decision of the hooks, by membership in the worn collection, and their agreement:
one and the same set of armors is blocked, left out of the active mask and passed over
by the visitor, and only under an overridden skinning. -/
theorem hook_queries_agree (x : TESObjectARMO) (hids : FormIDsIdentify (x :: wornArmors actor)) :
    (shouldBlockVanillaArmor game order gameDataLoaded (some x) (some (.actor actor)) = true ↔
      gameDataLoaded = true ∧ x ∈ wornArmors actor ∧ isSosTngGenitalArmor game x = true ∧
        ∃ c ∈ wornArmors actor, isSosTngGenitalArmor game c = false ∧
          shouldConcealGenitals game (some actor) c = true) ∧
    (shouldOverrideSkinning game order gameDataLoaded (some (.actor actor)) = true ↔
      gameDataLoaded = true ∧ (∃ a ∈ wornArmors actor, isSosTngGenitalArmor game a = true) ∧
        ∃ c ∈ wornArmors actor, isSosTngGenitalArmor game c = false ∧
          (shouldRevealGenitals game (some actor) c = true ∨
            shouldConcealGenitals game (some actor) c = true)) ∧
    (∀ (σ : Type) (visitor : IItemChangeVisitor σ), ∃ handed : IItemChangeVisitor σ,
      (∀ (inventory : InventoryChanges)
          (visitWornItems : InventoryChanges → IItemChangeVisitor σ → σ → σ) (s : σ),
        visitWornItemsWithGenitalFilter game order gameDataLoaded (some inventory) (some visitor)
          (some (.actor actor)) (some visitWornItems) s = visitWornItems inventory handed s) ∧
      ∀ entryData,
        if shouldBlockVanillaArmor game order gameDataLoaded (getEntryArmor entryData)
          (some (.actor actor))
        then handed.PassesOver entryData else handed.Forwards visitor entryData) ∧
    (∀ baseWornMask : SlotMask,
      getCorrectedWornMask game order gameDataLoaded (some (.actor actor)) baseWornMask =
        if shouldOverrideSkinning game order gameDataLoaded (some (.actor actor)) then
          ((collectEquippedArmors order (some (.actor actor))).filter (fun a =>
              !shouldBlockVanillaArmor game order gameDataLoaded (some a)
                (some (.actor actor)))).foldl
            (fun m a => m ||| (getArmorCorrectionSlotMask game a).setWidth 32) 0
        else baseWornMask) ∧
    (∀ a, a ∈ collectEquippedArmors order (some (.actor actor)) ↔ a ∈ wornArmors actor) ∧
    (shouldBlockVanillaArmor game order gameDataLoaded (some x) (some (.actor actor)) = true →
      shouldOverrideSkinning game order gameDataLoaded (some (.actor actor)) = true) := by
  refine ⟨shouldBlockVanillaArmor_iff game order gameDataLoaded actor x hids, ?_, ?_,
    getCorrectedWornMask_eq game order gameDataLoaded actor, mem_collectEquippedArmors order actor,
    shouldOverrideSkinning_of_block game order gameDataLoaded actor (some x)⟩
  · rw [shouldOverrideSkinning_iff]
    simp only [GenitalWorn, RevealDemanded, ConcealDemanded, and_or_left, exists_or]
  · intro σ visitor
    have hhanded := visitor.skipping_spec (fun entryData =>
      shouldBlockVanillaArmor game order gameDataLoaded (getEntryArmor entryData)
        (some (.actor actor)))
    refine ⟨_, fun inventory visitWornItems s => ?_, hhanded⟩
    exact visitWornItemsWithGenitalFilter_eq game order gameDataLoaded actor inventory visitor
      visitWornItems s

end Agreement

/-! ## A dress over genital armor -/

def dressedActor : Actor :=
  plainActor 3 true [plainArmor 1 "Schlong" genitalSlotMask, plainArmor 2 "Dress" bodySlotMask]

def countingVisitor : IItemChangeVisitor ℕ where
  visit _ s := (.kContinue, s + 1)
  shouldVisit _ _ s := (true, s)
  unk03 _ _ arg3 s := (.kContinue, arg3, s + 1)

/-- The genital armor is blocked and its entry passed over, the dress is neither. -/
theorem hook_queries_agree_dressed :
    shouldOverrideSkinning bareGame SetOrder.dedup true (some (.actor dressedActor)) = true ∧
    shouldBlockVanillaArmor bareGame SetOrder.dedup true
      (some (plainArmor 1 "Schlong" genitalSlotMask)) (some (.actor dressedActor)) = true ∧
    ∃ handed : IItemChangeVisitor ℕ,
      (∀ (inventory : InventoryChanges)
          (visitWornItems : InventoryChanges → IItemChangeVisitor ℕ → ℕ → ℕ) (s : ℕ),
        visitWornItemsWithGenitalFilter bareGame SetOrder.dedup true (some inventory)
          (some countingVisitor) (some (.actor dressedActor)) (some visitWornItems) s =
            visitWornItems inventory handed s) ∧
      handed.PassesOver (some ⟨some (.armor (plainArmor 1 "Schlong" genitalSlotMask))⟩) ∧
      handed.Forwards countingVisitor (some ⟨some (.armor (plainArmor 2 "Dress" bodySlotMask))⟩) := by
  have hschlong := hook_queries_agree bareGame SetOrder.dedup true dressedActor
    (plainArmor 1 "Schlong" genitalSlotMask) (by decide)
  have hdress := hook_queries_agree bareGame SetOrder.dedup true dressedActor
    (plainArmor 2 "Dress" bodySlotMask) (by decide)
  have hblocked : shouldBlockVanillaArmor bareGame SetOrder.dedup true
      (some (plainArmor 1 "Schlong" genitalSlotMask)) (some (.actor dressedActor)) = true :=
    hschlong.1.mpr ⟨rfl, by decide, by decide, plainArmor 2 "Dress" bodySlotMask, by decide,
      by decide, by decide⟩
  have hkept : ¬shouldBlockVanillaArmor bareGame SetOrder.dedup true
      (some (plainArmor 2 "Dress" bodySlotMask)) (some (.actor dressedActor)) = true :=
    fun hblock => absurd (hdress.1.mp hblock).2.2.1 (by decide)
  obtain ⟨handed, hvisit, hentries⟩ := hschlong.2.2.1 ℕ countingVisitor
  have hpassed := hentries (some ⟨some (.armor (plainArmor 1 "Schlong" genitalSlotMask))⟩)
  have hforwarded := hentries (some ⟨some (.armor (plainArmor 2 "Dress" bodySlotMask))⟩)
  simp only [getEntryArmor, TESBoundObject.asArmor, hblocked, ↓reduceIte] at hpassed
  simp only [getEntryArmor, TESBoundObject.asArmor, hkept] at hforwarded
  exact ⟨hschlong.2.2.2.2.2 hblocked, hblocked, handed, hvisit, hpassed, hforwarded⟩

end FittingSchlongs.Correction
