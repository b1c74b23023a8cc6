import FittingSchlongs.Correction.Queries
import Mathlib.Data.List.ReduceOption

/-! # The corrected worn mask, bit by bit

The mask is collected anew from the armors that stay visible. Each armor displays its
own slots or, without any, those of its addons, and upper-only clothing gives up slot 52.
-/

namespace FittingSchlongs.Correction
open Armor

/-! ## Masks collected in a loop -/

theorem getLsbD_foldl_or {α : Type*} {w : ℕ} (mask : α → BitVec w) (l : List α) (m : BitVec w)
    (b : ℕ) :
    (l.foldl (fun m a => m ||| mask a) m).getLsbD b = true ↔
      m.getLsbD b = true ∨ ∃ a ∈ l, (mask a).getLsbD b = true := by
  induction l generalizing m with
  | nil => simp
  | cons a l ih =>
    rw [List.foldl_cons, ih, BitVec.getLsbD_or, Bool.or_eq_true, or_assoc]
    simp only [List.mem_cons, exists_eq_or_imp]

theorem getLsbD_setWidth_slots (slots : SlotMask) (b : ℕ) :
    (slots.setWidth 64).getLsbD b = slots.getLsbD b := by
  rw [BitVec.getLsbD_setWidth]
  by_cases h : b < 64
  · simp [h]
  · simp [h, BitVec.getLsbD_of_ge slots b (by omega)]

theorem setWidth_slots_eq_zero_iff (slots : SlotMask) : slots.setWidth 64 = 0 ↔ slots = 0 := by
  constructor
  · intro h
    have hcut := congrArg (BitVec.setWidth 32) h
    simpa using hcut
  · intro h
    rw [h]
    rfl

theorem hasSlot_of_getLsbD {slotMask : BitVec 64} {slots : SlotMask} {b : ℕ}
    (hmask : slotMask.getLsbD b = true) (hslots : slots.getLsbD b = true) :
    hasSlot slotMask slots = true := by
  rw [hasSlot, decide_eq_true_eq]
  intro hzero
  have hbit : (slotMask &&& slots.setWidth 64).getLsbD b = (0 : BitVec 64).getLsbD b := by
    rw [hzero]
  rw [BitVec.getLsbD_and, getLsbD_setWidth_slots, hmask, hslots] at hbit
  simp at hbit

/-! ## What an armor displays -/

theorem getArmorAddonSlotMask_eq (armor : TESObjectARMO) :
    getArmorAddonSlotMask armor =
      armor.armorAddons.reduceOption.foldl
        (fun slotMask armorAddon => slotMask ||| armorAddon.slotMask.setWidth 64) 0 := by
  rw [getArmorAddonSlotMask, List.reduceOption, List.foldl_filterMap]
  congr 1
  funext slotMask armorAddon
  cases armorAddon <;> rfl

/-- The armor displays the slot: by its own mask or, when that is empty, by an addon. -/
def Displays (armor : TESObjectARMO) (b : ℕ) : Prop :=
  if armor.slotMask ≠ 0 then armor.slotMask.getLsbD b = true
  else ∃ armorAddon, some armorAddon ∈ armor.armorAddons ∧ armorAddon.slotMask.getLsbD b = true

theorem getArmorDisplaySlotMask_getLsbD (armor : TESObjectARMO) (b : ℕ) :
    (getArmorDisplaySlotMask armor).getLsbD b = true ↔ Displays armor b := by
  simp only [getArmorDisplaySlotMask, Displays, ne_eq, setWidth_slots_eq_zero_iff]
  split_ifs with hown
  · rw [getArmorAddonSlotMask_eq, getLsbD_foldl_or]
    simp only [getLsbD_setWidth_slots, List.reduceOption_mem_iff]
    simp
  · rw [getLsbD_setWidth_slots]

theorem Displays.lt {armor : TESObjectARMO} {b : ℕ} (h : Displays armor b) : b < 32 := by
  rw [Displays] at h
  split_ifs at h
  · exact BitVec.lt_of_getLsbD h
  · obtain ⟨armorAddon, -, hbit⟩ := h
    exact BitVec.lt_of_getLsbD hbit

/-! ## What an armor contributes -/

section Contribution

variable (game : GameData)

/-- Upper-only clothing that is no genital armor. -/
def UpperOnlyClothing (armor : TESObjectARMO) : Prop :=
  isSosTngGenitalArmor game armor = false ∧ isLikelyUpperOnlyBodyArmor game armor = true

theorem gives_up_iff {armor : TESObjectARMO} {b : ℕ} (hdisplays : Displays armor b)
    (hgenital : genitalSlotMask.getLsbD b = true) :
    (!isSosTngGenitalArmor game armor && hasSlot (getArmorDisplaySlotMask armor) bodySlotMask &&
      hasSlot (getArmorDisplaySlotMask armor) genitalSlotMask &&
        isLikelyUpperOnlyBodyArmor game armor) = true ↔ UpperOnlyClothing game armor := by
  have hslot := hasSlot_of_getLsbD ((getArmorDisplaySlotMask_getLsbD armor b).mpr hdisplays) hgenital
  simp only [UpperOnlyClothing, hslot, Bool.and_true, Bool.and_eq_true, Bool.not_eq_true']
  constructor
  · exact fun h => ⟨h.1.1, h.2⟩
  · exact fun h => ⟨⟨h.1, hasSlot_of_upperOnly game h.2⟩, h.2⟩

theorem getArmorCorrectionSlotMask_getLsbD (armor : TESObjectARMO) (b : ℕ) :
    ((getArmorCorrectionSlotMask game armor).setWidth 32).getLsbD b = true ↔
      Displays armor b ∧ ¬(genitalSlotMask.getLsbD b = true ∧ UpperOnlyClothing game armor) := by
  rw [BitVec.getLsbD_setWidth, Bool.and_eq_true, decide_eq_true_eq]
  have hdisplays := getArmorDisplaySlotMask_getLsbD armor b
  simp only [getArmorCorrectionSlotMask]
  split_ifs with hzero htest
  · rw [hzero] at hdisplays
    simp_all
  · have hclothing : UpperOnlyClothing game armor := by
      simp only [Bool.and_eq_true, Bool.not_eq_true'] at htest
      exact ⟨htest.1.1.1, htest.2⟩
    simp only [BitVec.getLsbD_and, BitVec.getLsbD_not, getLsbD_setWidth_slots, Bool.and_eq_true,
      hdisplays, hclothing, and_true, decide_eq_true_eq, Bool.not_eq_true', Bool.not_eq_true]
    constructor
    · exact fun h => ⟨h.2.1, h.2.2.2⟩
    · exact fun h => ⟨h.1.lt, h.1, by have := h.1.lt; omega, h.2⟩
  · rw [hdisplays]
    constructor
    · rintro ⟨-, h⟩
      exact ⟨h, fun hgives => htest ((gives_up_iff game h hgives.1).mpr hgives.2)⟩
    · exact fun h => ⟨h.1.lt, h.1⟩

end Contribution

/-! ## The corrected mask -/

section Mask

variable (game : GameData) (order : SetOrder TESObjectARMO) (gameDataLoaded : Bool) (actor : Actor)

/-- A worn armor the correction set does not hide. -/
def VisiblyWorn (armor : TESObjectARMO) : Prop :=
  armor ∈ wornArmors actor ∧
    shouldHideArmor (buildCorrectionSet game order gameDataLoaded (some actor)) (some armor) = false

/-- What keeps a bit in the corrected mask. -/
def Contributes (armor : TESObjectARMO) (b : ℕ) : Prop :=
  Displays armor b ∧ ¬(genitalSlotMask.getLsbD b = true ∧ UpperOnlyClothing game armor)

variable {game order gameDataLoaded actor}

theorem getCorrectedWornMask_inactive {target : Option TESObjectREFR}
    (h : (buildCorrectionSet game order gameDataLoaded
      (target.bind TESObjectREFR.asActor)).active = false) (baseWornMask : SlotMask) :
    getCorrectedWornMask game order gameDataLoaded target baseWornMask = baseWornMask := by
  simp [getCorrectedWornMask, h]

theorem getCorrectedWornMask_getLsbD
    (h : (buildCorrectionSet game order gameDataLoaded (some actor)).active = true)
    (baseWornMask : SlotMask) (b : ℕ) :
    (getCorrectedWornMask game order gameDataLoaded (some (.actor actor)) baseWornMask).getLsbD b =
        true ↔
      ∃ a, VisiblyWorn game order gameDataLoaded actor a ∧ Contributes game a b := by
  have hoverride : shouldOverrideSkinning game order gameDataLoaded (some (.actor actor)) = true := h
  rw [getCorrectedWornMask_eq, if_pos hoverride, getLsbD_foldl_or]
  simp only [List.mem_filter, mem_collectEquippedArmors, getArmorCorrectionSlotMask_getLsbD,
    shouldBlockVanillaArmor_eq, Bool.not_eq_true', VisiblyWorn, Contributes, and_assoc]
  simp

theorem genital_of_hidden {a : TESObjectARMO} (hids : FormIDsIdentify (wornArmors actor))
    (ha : a ∈ wornArmors actor)
    (h : shouldHideArmor (buildCorrectionSet game order gameDataLoaded (some actor)) (some a) =
      true) : isSosTngGenitalArmor game a = true := by
  rw [shouldHideArmor_iff, mem_hiddenArmorFormIDs] at h
  obtain ⟨-, -, g, hg, hgenital, hid⟩ := h
  rwa [hids a ha g hg hid.symm]

theorem displays_of_own {a : TESObjectARMO} (hown : a.slotMask ≠ 0) (b : ℕ) :
    Displays a b ↔ a.slotMask.getLsbD b = true := by
  rw [Displays, if_pos hown]

/-- The corrected mask drops from the OR of the worn armors' own slots only slot 52 and the
slots that hidden armors alone had. -/
theorem dropped_bit (h : (buildCorrectionSet game order gameDataLoaded (some actor)).active = true)
    (hown : ∀ a ∈ wornArmors actor, a.slotMask ≠ 0) {baseWornMask : SlotMask} {b : ℕ}
    (hdropped : (getCorrectedWornMask game order gameDataLoaded (some (.actor actor))
      baseWornMask).getLsbD b = false) (hslot : ¬genitalSlotMask.getLsbD b = true)
    {a : TESObjectARMO} (ha : a ∈ wornArmors actor) (hbit : a.slotMask.getLsbD b = true) :
    shouldHideArmor (buildCorrectionSet game order gameDataLoaded (some actor)) (some a) = true := by
  by_contra hvisible
  rw [← Bool.not_eq_true, getCorrectedWornMask_getLsbD h] at hdropped
  apply hdropped
  refine ⟨a, ⟨ha, by simpa using hvisible⟩, (displays_of_own (hown a ha) b).mpr hbit, ?_⟩
  exact fun hgives => hslot hgives.1

/-- The bits of the corrected mask, and what it drops when every worn armor has slots of its
own and the base mask is their OR. -/
theorem correctedWornMask_exact (game : GameData) (order : SetOrder TESObjectARMO)
    (gameDataLoaded : Bool) (actor : Actor) :
    (∀ target baseWornMask,
      (buildCorrectionSet game order gameDataLoaded (target.bind TESObjectREFR.asActor)).active =
        false →
      getCorrectedWornMask game order gameDataLoaded target baseWornMask = baseWornMask) ∧
    ((buildCorrectionSet game order gameDataLoaded (some actor)).active = true →
      ∀ baseWornMask : SlotMask,
      (∀ b, (getCorrectedWornMask game order gameDataLoaded (some (.actor actor))
          baseWornMask).getLsbD b = true ↔
        ∃ a ∈ wornArmors actor,
          a.formID ∉
            (buildCorrectionSet game order gameDataLoaded (some actor)).hiddenArmorFormIDs ∧
          Displays a b ∧
          ¬(genitalSlotMask.getLsbD b = true ∧ isSosTngGenitalArmor game a = false ∧
            isLikelyUpperOnlyBodyArmor game a = true)) ∧
      ((∀ a ∈ wornArmors actor, a.slotMask ≠ 0) →
        baseWornMask = (wornArmors actor).foldl (fun m a => m ||| a.slotMask) 0 →
        (∀ b, (getCorrectedWornMask game order gameDataLoaded (some (.actor actor))
            baseWornMask).getLsbD b = true → baseWornMask.getLsbD b = true) ∧
        ∀ b, baseWornMask.getLsbD b = true →
          (getCorrectedWornMask game order gameDataLoaded (some (.actor actor))
            baseWornMask).getLsbD b = false →
          genitalSlotMask.getLsbD b = true ∨
            ∀ a ∈ wornArmors actor, a.slotMask.getLsbD b = true →
              a.formID ∈
                (buildCorrectionSet game order gameDataLoaded (some actor)).hiddenArmorFormIDs ∧
              (FormIDsIdentify (wornArmors actor) → isSosTngGenitalArmor game a = true))) := by
  refine ⟨fun target baseWornMask h => getCorrectedWornMask_inactive h baseWornMask, ?_⟩
  intro hactive baseWornMask
  have hbits := getCorrectedWornMask_getLsbD hactive baseWornMask
  refine ⟨fun b => ?_, fun hown hbase => ⟨fun b hb => ?_, fun b _ hdropped => ?_⟩⟩
  · rw [hbits]
    simp only [VisiblyWorn, Contributes, UpperOnlyClothing, and_assoc, ← Bool.not_eq_true,
      shouldHideArmor_iff]
  · obtain ⟨a, ⟨ha, -⟩, hdisplays, -⟩ := (hbits b).mp hb
    rw [hbase, getLsbD_foldl_or]
    exact Or.inr ⟨a, ha, (displays_of_own (hown a ha) b).mp hdisplays⟩
  · by_cases hslot : genitalSlotMask.getLsbD b = true
    · exact Or.inl hslot
    · right
      intro a ha hbit
      have hhidden := dropped_bit hactive hown hdropped hslot ha hbit
      exact ⟨(shouldHideArmor_iff _ a).mp hhidden, fun hids => genital_of_hidden hids ha hhidden⟩

end Mask

/-- The dress keeps its body slot, and slot 52 of the hidden genital armor is dropped. -/
theorem correctedWornMask_exact_dressed :
    let worn := genitalSlotMask ||| bodySlotMask
    let mask := getCorrectedWornMask bareGame SetOrder.dedup true (some (.actor dressedActor)) worn
    mask.getLsbD 2 = true ∧ mask.getLsbD 22 = false ∧
      (∀ b, mask.getLsbD b = true → worn.getLsbD b = true) ∧
      ∀ b, worn.getLsbD b = true → mask.getLsbD b = false →
        genitalSlotMask.getLsbD b = true ∨
          ∀ a ∈ wornArmors dressedActor, a.slotMask.getLsbD b = true →
            a.formID ∈ (buildCorrectionSet bareGame SetOrder.dedup true
              (some dressedActor)).hiddenArmorFormIDs ∧
            (FormIDsIdentify (wornArmors dressedActor) → isSosTngGenitalArmor bareGame a = true) := by
  intro worn mask
  obtain ⟨hbits, hbase⟩ := (correctedWornMask_exact bareGame SetOrder.dedup true dressedActor).2
    (by decide) worn
  have hdress : Displays (plainArmor 2 "Dress" bodySlotMask) 2 :=
    (displays_of_own (by decide) 2).mpr (by decide)
  have hslot : ¬genitalSlotMask.getLsbD 2 = true := by decide
  refine ⟨(hbits 2).mpr ⟨plainArmor 2 "Dress" bodySlotMask, by decide, by decide, hdress,
    fun h => hslot h.1⟩, ?_, hbase (by decide) (by decide)⟩
  rw [← Bool.not_eq_true, hbits 22]
  rintro ⟨a, ha, hvisible, hdisplays, -⟩
  -- Only the genital armor displays slot 52, and it is hidden.
  have hhidden : ∀ a ∈ wornArmors dressedActor, a.slotMask ≠ 0 ∧ (a.slotMask.getLsbD 22 = true →
      a.formID ∈ (buildCorrectionSet bareGame SetOrder.dedup true
        (some dressedActor)).hiddenArmorFormIDs) := by
    decide
  obtain ⟨hown, himplies⟩ := hhidden a ha
  exact hvisible (himplies ((displays_of_own hown 22).mp hdisplays))

end FittingSchlongs.Correction
