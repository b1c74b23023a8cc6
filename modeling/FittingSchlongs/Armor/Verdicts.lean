import FittingSchlongs.Armor.Classifier
import Mathlib.Logic.Basic

/-! # The three readers of an armor

For an actor an armor reveals, conceals or does neither, and independently the equip
sink asks whether it matters at all. The readers were written separately; what ties
them together is the body slot behind every upper-only verdict.
-/

namespace FittingSchlongs.Armor

variable (game : GameData) (actor : Option Actor) (armor : TESObjectARMO)

/-! ## Each reader on an armor that carries no mark -/

section Unmarked

variable {game actor armor}

theorem shouldRevealGenitals_unmarked (hgenital : isSosTngGenitalArmor game armor = false)
    (hcovering : isGenitalCoveringArmor game actor armor = false)
    (hrevealing : isGenitalRevealingArmor game actor armor = false) :
    shouldRevealGenitals game actor armor = isLikelyUpperOnlyBodyArmor game armor := by
  simp [shouldRevealGenitals, hgenital, hcovering, hrevealing]

theorem shouldConcealGenitals_unmarked (hgenital : isSosTngGenitalArmor game armor = false)
    (hcovering : isGenitalCoveringArmor game actor armor = false)
    (hrevealing : isGenitalRevealingArmor game actor armor = false) :
    shouldConcealGenitals game actor armor =
      if hasSlot (getArmorDisplaySlotMask armor) bodySlotMask then
        !isLikelyUpperOnlyBodyArmor game armor
      else
        hasSlot (getArmorDisplaySlotMask armor) genitalSlotMask ||
          isLikelyGenitalConcealingPelvisArmor game armor := by
  simp [shouldConcealGenitals, hgenital, hcovering, hrevealing, hasDisplaySlot_eq]

theorem isCorrectionRelevantArmor_unmarked (hgenital : isSosTngGenitalArmor game armor = false)
    (hcovering : isGenitalCoveringArmor game actor armor = false)
    (hrevealing : isGenitalRevealingArmor game actor armor = false) :
    isCorrectionRelevantArmor game actor armor =
      (hasSlot (getArmorDisplaySlotMask armor) bodySlotMask ||
        hasSlot (getArmorDisplaySlotMask armor) genitalSlotMask ||
        isLikelyGenitalConcealingPelvisArmor game armor) := by
  simp [isCorrectionRelevantArmor, hgenital, hcovering, hrevealing, hasDisplaySlot_eq]

end Unmarked

/-! ## The readers together -/

theorem not_reveal_and_conceal :
    ¬(shouldRevealGenitals game actor armor = true ∧
      shouldConcealGenitals game actor armor = true) := by
  rintro ⟨hreveal, hconceal⟩
  simp only [shouldRevealGenitals] at hreveal
  simp only [shouldConcealGenitals, hasDisplaySlot_eq] at hconceal
  split_ifs at hreveal hconceal with _ hgenital hbody
  · have hrevealing : isGenitalRevealingArmor game actor armor = false := by simp_all
    rw [hrevealing, Bool.false_or] at hreveal
    rw [hreveal] at hconceal
    exact Bool.false_ne_true hconceal
  · have hrevealing : isGenitalRevealingArmor game actor armor = false := by simp_all
    rw [hrevealing, Bool.false_or] at hreveal
    exact hbody (hasSlot_of_upperOnly game hreveal)

/-- An unmarked armor matters to the equip sink exactly when it reveals or conceals. -/
theorem isCorrectionRelevantArmor_iff_xor (hgenital : isSosTngGenitalArmor game armor = false)
    (hcovering : isGenitalCoveringArmor game actor armor = false)
    (hrevealing : isGenitalRevealingArmor game actor armor = false) :
    isCorrectionRelevantArmor game actor armor = true ↔
      Xor (shouldRevealGenitals game actor armor = true)
        (shouldConcealGenitals game actor armor = true) := by
  rw [isCorrectionRelevantArmor_unmarked hgenital hcovering hrevealing,
    shouldRevealGenitals_unmarked hgenital hcovering hrevealing,
    shouldConcealGenitals_unmarked hgenital hcovering hrevealing]
  cases hbody : hasSlot (getArmorDisplaySlotMask armor) bodySlotMask with
  | true =>
    cases isLikelyUpperOnlyBodyArmor game armor <;> simp [Xor]
  | false =>
    have hupper : isLikelyUpperOnlyBodyArmor game armor = false := by
      simp [isLikelyUpperOnlyBodyArmor, hbody]
    simp [hupper, Xor]

/-- Revealing and concealing exclude each other, and on an unmarked armor the equip sink asks
for exactly one of them. -/
theorem verdicts_consistent :
    ¬(shouldRevealGenitals game actor armor = true ∧
      shouldConcealGenitals game actor armor = true) ∧
    (isSosTngGenitalArmor game armor = false →
      isGenitalCoveringArmor game actor armor = false →
      isGenitalRevealingArmor game actor armor = false →
      (isCorrectionRelevantArmor game actor armor = true ↔
        Xor (shouldRevealGenitals game actor armor = true)
          (shouldConcealGenitals game actor armor = true))) :=
  ⟨not_reveal_and_conceal game actor armor,
    isCorrectionRelevantArmor_iff_xor game actor armor⟩

/-- A dress without marks conceals and so matters. -/
theorem verdicts_consistent_dress :
    isCorrectionRelevantArmor bareGame none (plainArmor 1 "Dress" bodySlotMask) = true ∧
      shouldRevealGenitals bareGame none (plainArmor 1 "Dress" bodySlotMask) = false := by
  have hconceal : shouldConcealGenitals bareGame none (plainArmor 1 "Dress" bodySlotMask) = true := by
    decide
  have hverdicts := verdicts_consistent bareGame none (plainArmor 1 "Dress" bodySlotMask)
  have hreveal : ¬shouldRevealGenitals bareGame none (plainArmor 1 "Dress" bodySlotMask) = true :=
    fun h => hverdicts.1 ⟨h, hconceal⟩
  have hxor := hverdicts.2 (by decide) (by decide) (by decide)
  exact ⟨hxor.mpr (Or.inr ⟨hconceal, hreveal⟩), by simpa using hreveal⟩

end FittingSchlongs.Armor
