import FittingSchlongs.Armor.Classifier
import FittingSchlongs.Text.Fields

/-! # Explicit terms across the fields of an armor

The editor ID, the display name and the keyword names are searched as one text with the
same space between fields as between words. A two-word term is then also found in the
last word of one field and the first word of the next, and an explicit term overrides
every blocker.
-/

namespace FittingSchlongs.Armor
open Text

variable (game : GameData)

/-- The words on the two sides of each place where two fields of the armor meet. -/
def classificationJoints (armor : TESObjectARMO) : List (Bytes × Bytes) :=
  fieldJoints (classificationFields game armor)

variable {game} {armor : TESObjectARMO}

theorem buildArmorClassificationText_eq :
    buildArmorClassificationText game armor =
      accumulatedText (classificationFields game armor) := rfl

theorem isUpperOnlyText_of_blocked {text : Bytes}
    (hblocker : containsAnySearchTerm text kLowerBodyBlockers = true) :
    isUpperOnlyText text = containsAnySearchTerm text kExplicitUpperOnlyTerms := by
  cases hexplicit : containsAnySearchTerm text kExplicitUpperOnlyTerms <;>
    simp [isUpperOnlyText, hexplicit, hblocker]

/-- An armor with a blocker in some field and an explicit term in none is kept from an
upper-only verdict exactly when it has no body slot or no two fields that meet form an
explicit term. -/
theorem blocked_armor_iff
    (hexplicit : ∀ field ∈ classificationFields game armor,
      containsAnySearchTerm (buildSearchTextPart field) kExplicitUpperOnlyTerms = false)
    (hblocker : ∃ field ∈ classificationFields game armor,
      containsAnySearchTerm (buildSearchTextPart field) kLowerBodyBlockers = true) :
    isLikelyUpperOnlyBodyArmor game armor = false ↔
      hasSlot (getArmorDisplaySlotMask armor) bodySlotMask = false ∨
        ∀ joint ∈ classificationJoints game armor,
          containsAnySearchTerm (twoWords joint.1 joint.2) kExplicitUpperOnlyTerms = false := by
  obtain ⟨field, hfield, hfound⟩ := hblocker
  have hblocked : containsAnySearchTerm (buildArmorClassificationText game armor)
      kLowerBodyBlockers = true :=
    containsAnySearchTerm_of_field blockerTerms_wellFormed hfield hfound
  have htext : containsAnySearchTerm (buildArmorClassificationText game armor)
      kExplicitUpperOnlyTerms = true ↔
        ∃ u v, (u, v) ∈ classificationJoints game armor ∧
          containsAnySearchTerm (twoWords u v) kExplicitUpperOnlyTerms = true := by
    rw [buildArmorClassificationText_eq, explicit_accumulatedText_iff, or_iff_right]
    · rfl
    · rintro ⟨other, hother, h⟩
      rw [hexplicit other hother] at h
      exact Bool.false_ne_true h
  cases hslot : hasSlot (getArmorDisplaySlotMask armor) bodySlotMask with
  | false => simp [isLikelyUpperOnlyBodyArmor, hslot]
  | true =>
    rw [isLikelyUpperOnlyBodyArmor_of_slot game hslot, isUpperOnlyText_of_blocked hblocked,
      ← Bool.not_eq_true, htext]
    simp

/-- A blocker in the only name keeps a dress from an upper-only verdict. -/
theorem blocked_armor_iff_dress :
    isLikelyUpperOnlyBodyArmor bareGame (plainArmor 1 "RedDress" bodySlotMask) = false :=
  (blocked_armor_iff (by decide) (by decide)).mpr (Or.inr (by decide))

/-- Without a name of its own an armor repeats its editor ID, and "TopDress" twice contains
"dress top". -/
theorem repeated_editorID_forms_term :
    ¬∀ (game : GameData) (armor : TESObjectARMO),
      (∀ field ∈ classificationFields game armor,
        containsAnySearchTerm (buildSearchTextPart field) kExplicitUpperOnlyTerms = false) →
      (∃ field ∈ classificationFields game armor,
        containsAnySearchTerm (buildSearchTextPart field) kLowerBodyBlockers = true) →
      isLikelyUpperOnlyBodyArmor game armor = false := by
  intro h
  have htop := h bareGame (plainArmor 1 "TopDress" bodySlotMask) (by decide) (by decide)
  revert htop
  decide

end FittingSchlongs.Armor
