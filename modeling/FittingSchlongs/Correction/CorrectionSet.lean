import FittingSchlongs.Armor.Classifier
import Mathlib.Data.Finset.Basic
import Mathlib.Data.Finset.Lattice.Fold

/-! # The correction set of an actor

What the worn armors of an actor ask for: nothing, skinning override alone, or
also the removal of the genital armors. The code runs two loops over an
unordered set; the specification speaks about membership only.
-/

namespace FittingSchlongs.Correction
open Armor Text

/-- A `std::unordered_set` filled from a list: every element once, in an
unspecified order. -/
structure SetOrder (α : Type*) where
  enumerate : List α → List α
  nodup_enumerate : ∀ l, (enumerate l).Nodup
  mem_enumerate : ∀ l a, a ∈ enumerate l ↔ a ∈ l

/-- One possible order: the last insertion of each element. -/
def SetOrder.dedup {α : Type*} [DecidableEq α] : SetOrder α where
  enumerate := List.dedup
  nodup_enumerate := List.nodup_dedup
  mem_enumerate _ _ := List.mem_dedup

structure CorrectionSet where
  active : Bool
  revealGenitals : Bool
  concealGenitals : Bool
  hiddenArmorFormIDs : Finset FormID
  deriving DecidableEq

/-- The default-constructed set. -/
def CorrectionSet.empty : CorrectionSet := ⟨false, false, false, ∅⟩

def getEntryArmor : Option InventoryEntryData → Option TESObjectARMO
  | none => none
  | some entryData => match entryData.object with
    | none => none
    | some object => object.asArmor

/-- The armors `WornArmorVisitor` meets, in the order of the worn entries. -/
def visitedArmors (items : WornItems) : List TESObjectARMO := items.filterMap getEntryArmor

section Build

variable (game : GameData) (order : SetOrder TESObjectARMO) (gameDataLoaded : Bool)

def collectEquippedArmors (target : Option TESObjectREFR) : List TESObjectARMO :=
  match target with
  | none => []
  | some target => match target.getInventoryChanges with
    | none => []
    | some items => order.enumerate (visitedArmors items)

/-- The accumulators of the first loop. -/
structure EquippedScan where
  genitalArmorEquipped : Bool
  revealGenitals : Bool
  concealGenitals : Bool

/-- The body of the first loop: genital armor is only noted. -/
def scanArmor (actor : Actor) (scan : EquippedScan) (armor : TESObjectARMO) : EquippedScan :=
  if isSosTngGenitalArmor game armor then { scan with genitalArmorEquipped := true }
  else
    { scan with
      revealGenitals := scan.revealGenitals || shouldRevealGenitals game (some actor) armor
      concealGenitals := scan.concealGenitals || shouldConcealGenitals game (some actor) armor }

/-- The body of the second loop. -/
def hideArmor (hidden : Finset FormID) (armor : TESObjectARMO) : Finset FormID :=
  if isSosTngGenitalArmor game armor then insert armor.formID hidden else hidden

def buildCorrectionSet (actor : Option Actor) : CorrectionSet :=
  match actor with
  | none => CorrectionSet.empty
  | some actor =>
    if !gameDataLoaded then CorrectionSet.empty
    else
      let equippedArmors := collectEquippedArmors order (some (.actor actor))
      let scan := equippedArmors.foldl (scanArmor game actor) ⟨false, false, false⟩
      { active := scan.genitalArmorEquipped && (scan.revealGenitals || scan.concealGenitals)
        revealGenitals := scan.revealGenitals
        concealGenitals := scan.concealGenitals
        hiddenArmorFormIDs :=
          if scan.concealGenitals && scan.genitalArmorEquipped then
            equippedArmors.foldl (hideArmor game) ∅
          else ∅ }

end Build

def shouldHideArmor (set : CorrectionSet) (armor : Option TESObjectARMO) : Bool :=
  match armor with
  | none => false
  | some armor => decide (armor.formID ∈ set.hiddenArmorFormIDs)

/-! ## What the worn armors ask for, by membership -/

section Demand

variable (game : GameData) (actor : Actor) (worn : List TESObjectARMO)

/-- Some worn armor is genital armor. -/
def GenitalWorn : Prop := ∃ a ∈ worn, isSosTngGenitalArmor game a = true

/-- Some worn non-genital armor asks for revealing. -/
def RevealDemanded : Prop :=
  ∃ c ∈ worn, isSosTngGenitalArmor game c = false ∧ shouldRevealGenitals game (some actor) c = true

/-- Some worn non-genital armor asks for concealing. -/
def ConcealDemanded : Prop :=
  ∃ c ∈ worn, isSosTngGenitalArmor game c = false ∧ shouldConcealGenitals game (some actor) c = true

theorem foldl_scanArmor (scan : EquippedScan) :
    ((worn.foldl (scanArmor game actor) scan).genitalArmorEquipped = true ↔
      scan.genitalArmorEquipped = true ∨ GenitalWorn game worn) ∧
    ((worn.foldl (scanArmor game actor) scan).revealGenitals = true ↔
      scan.revealGenitals = true ∨ RevealDemanded game actor worn) ∧
    ((worn.foldl (scanArmor game actor) scan).concealGenitals = true ↔
      scan.concealGenitals = true ∨ ConcealDemanded game actor worn) := by
  induction worn generalizing scan with
  | nil => simp [GenitalWorn, RevealDemanded, ConcealDemanded]
  | cons a worn ih =>
    obtain ⟨hgenital, hreveal, hconceal⟩ := ih (scanArmor game actor scan a)
    rw [List.foldl_cons, hgenital, hreveal, hconceal]
    simp only [GenitalWorn, RevealDemanded, ConcealDemanded, List.mem_cons, exists_eq_or_imp]
    cases ha : isSosTngGenitalArmor game a <;> simp [scanArmor, ha, or_assoc]

omit actor in
theorem mem_foldl_hideArmor (hidden : Finset FormID) (id : FormID) :
    id ∈ worn.foldl (hideArmor game) hidden ↔
      id ∈ hidden ∨ ∃ a ∈ worn, isSosTngGenitalArmor game a = true ∧ a.formID = id := by
  induction worn generalizing hidden with
  | nil => simp
  | cons a worn ih =>
    rw [List.foldl_cons, ih]
    simp only [List.mem_cons, exists_eq_or_imp]
    cases ha : isSosTngGenitalArmor game a
    · simp [hideArmor, ha]
    · simp only [hideArmor, ha, ↓reduceIte, Finset.mem_insert, true_and, eq_comm (a := id)]
      tauto

end Demand

/-! ## The set the code builds -/

section Spec

variable (game : GameData) (order : SetOrder TESObjectARMO) (gameDataLoaded : Bool) (actor : Actor)

/-- The armors an actor wears, in any order and with repetitions. -/
def wornArmors (actor : Actor) : List TESObjectARMO :=
  match actor.inventoryChanges with
  | none => []
  | some items => visitedArmors items

theorem mem_collectEquippedArmors (a : TESObjectARMO) :
    a ∈ collectEquippedArmors order (some (.actor actor)) ↔ a ∈ wornArmors actor := by
  simp only [collectEquippedArmors, wornArmors, TESObjectREFR.getInventoryChanges]
  cases actor.inventoryChanges with
  | none => rfl
  | some items => exact order.mem_enumerate _ a

theorem buildCorrectionSet_unloaded (target : Option Actor) :
    buildCorrectionSet game order false target = CorrectionSet.empty := by
  cases target <;> rfl

theorem demands_collect :
    (GenitalWorn game (collectEquippedArmors order (some (.actor actor))) ↔
      GenitalWorn game (wornArmors actor)) ∧
    (RevealDemanded game actor (collectEquippedArmors order (some (.actor actor))) ↔
      RevealDemanded game actor (wornArmors actor)) ∧
    (ConcealDemanded game actor (collectEquippedArmors order (some (.actor actor))) ↔
      ConcealDemanded game actor (wornArmors actor)) := by
  simp only [GenitalWorn, RevealDemanded, ConcealDemanded, mem_collectEquippedArmors, true_and]

theorem buildCorrectionSet_active :
    (buildCorrectionSet game order gameDataLoaded (some actor)).active = true ↔
      gameDataLoaded = true ∧ GenitalWorn game (wornArmors actor) ∧
        (RevealDemanded game actor (wornArmors actor) ∨
          ConcealDemanded game actor (wornArmors actor)) := by
  obtain ⟨hgenital, hreveal, hconceal⟩ := demands_collect game order actor
  cases gameDataLoaded with
  | false => simp [buildCorrectionSet, CorrectionSet.empty]
  | true =>
    obtain ⟨h1, h2, h3⟩ := foldl_scanArmor game actor
      (collectEquippedArmors order (some (.actor actor))) ⟨false, false, false⟩
    simp only [Bool.false_eq_true, false_or] at h1 h2 h3
    simp [buildCorrectionSet, h1, h2, h3, hgenital, hreveal, hconceal]

/-- The hidden form IDs are those of the worn genital armors, once concealing is asked for. -/
theorem mem_hiddenArmorFormIDs (id : FormID) :
    id ∈ (buildCorrectionSet game order gameDataLoaded (some actor)).hiddenArmorFormIDs ↔
      gameDataLoaded = true ∧ ConcealDemanded game actor (wornArmors actor) ∧
        ∃ a ∈ wornArmors actor, isSosTngGenitalArmor game a = true ∧ a.formID = id := by
  obtain ⟨hgenital, -, hconceal⟩ := demands_collect game order actor
  cases gameDataLoaded with
  | false => simp [buildCorrectionSet, CorrectionSet.empty]
  | true =>
    obtain ⟨h1, -, h3⟩ := foldl_scanArmor game actor
      (collectEquippedArmors order (some (.actor actor))) ⟨false, false, false⟩
    simp only [Bool.false_eq_true, false_or] at h1 h3
    simp only [buildCorrectionSet, Bool.not_true, Bool.false_eq_true, ↓reduceIte, true_and]
    split_ifs with h <;> rw [Bool.and_eq_true, h1, h3, hgenital, hconceal] at h
    · simp [mem_foldl_hideArmor, mem_collectEquippedArmors, h.1]
    · simp only [Finset.notMem_empty, false_iff, not_and]
      rintro hc ⟨a, ha, hga, -⟩
      exact h ⟨hc, a, ha, hga⟩

theorem active_of_mem_hidden {id : FormID}
    (h : id ∈ (buildCorrectionSet game order gameDataLoaded (some actor)).hiddenArmorFormIDs) :
    (buildCorrectionSet game order gameDataLoaded (some actor)).active = true := by
  obtain ⟨hloaded, hconceal, a, ha, hga, -⟩ :=
    (mem_hiddenArmorFormIDs game order gameDataLoaded actor id).mp h
  exact (buildCorrectionSet_active game order gameDataLoaded actor).mpr
    ⟨hloaded, ⟨a, ha, hga⟩, Or.inr hconceal⟩

end Spec

end FittingSchlongs.Correction
