import FittingSchlongs.Keywords.Convergence
import FittingSchlongs.Keywords.Precedence

/-! # What the readers make of settled keywords

On an armor that no further pass changes, the keywords the readers look at are those of
the classifier's verdict, so every wearer gets that verdict. Only a keyword for the other
sex, which the pass leaves alone, keeps an upper-only armor from revealing.
-/

namespace FittingSchlongs.Keywords
open Armor Text Function

variable {game : GameData} {actor : Option Actor} {armor : TESObjectARMO}

/-- The keyword that reveals on the other sex only. -/
def otherSexEditorID (actor : Option Actor) : Bytes :=
  if isActorFemale actor then kTngRevealingOnlyMen else kTngRevealingOnlyWomen

theorem isGenitalCoveringArmor_eq (hlisted : isListed game armor kSosConcealingArmors = false)
    (hkeywords : ∀ name ∈ concealingEditorIDs, hasKeywordEditorID game armor name = false) :
    isGenitalCoveringArmor game actor armor =
      hasKeywordEditorID game armor (otherSexEditorID actor) := by
  simp only [concealingEditorIDs, List.forall_mem_cons, List.not_mem_nil, false_imp_iff,
    implies_true, and_true] at hkeywords
  obtain ⟨hconcealing, hunderwear, hcovering, -⟩ := hkeywords
  rw [Bool.eq_iff_iff, isGenitalCoveringArmor_iff, otherSexEditorID]
  cases isActorFemale actor <;> simp [hconcealing, hunderwear, hcovering, hlisted]

/-- Every wearer gets the verdict of the classifiers on the armor. -/
structure ReadsVerdict (game : GameData) (armor : TESObjectARMO) : Prop where
  upper : isLikelyUpperOnlyBodyArmor game armor = true → ∀ actor,
    shouldConcealGenitals game actor armor = false ∧
      shouldRevealGenitals game actor armor =
        !hasKeywordEditorID game armor (otherSexEditorID actor)
  body : hasSlot (getArmorDisplaySlotMask armor) bodySlotMask = true →
    isLikelyUpperOnlyBodyArmor game armor = false → ∀ actor,
      shouldConcealGenitals game actor armor = true ∧ shouldRevealGenitals game actor armor = false
  pelvis : hasSlot (getArmorDisplaySlotMask armor) bodySlotMask = false →
    isLikelyGenitalConcealingPelvisArmor game armor = true → ∀ actor,
      shouldConcealGenitals game actor armor = true ∧ shouldRevealGenitals game actor armor = false

theorem conceals_of_no_revealing (hgenital : isSosTngGenitalArmor game armor = false)
    (hlisted : isListed game armor kSosRevealingArmors = false)
    (hkeywords : ∀ name ∈ revealingEditorIDs, hasKeywordEditorID game armor name = false)
    (hupper : isLikelyUpperOnlyBodyArmor game armor = false)
    (hcovers : hasSlot (getArmorDisplaySlotMask armor) bodySlotMask = true ∨
      isLikelyGenitalConcealingPelvisArmor game armor = true) (actor : Option Actor) :
    shouldConcealGenitals game actor armor = true ∧
      shouldRevealGenitals game actor armor = false := by
  have hrevealing : isGenitalRevealingArmor game actor armor = false :=
    isGenitalRevealingArmor_eq_false hlisted hkeywords
  refine ⟨?_, shouldRevealGenitals_eq_false hrevealing hupper⟩
  cases hbody : hasSlot (getArmorDisplaySlotMask armor) bodySlotMask with
  | true => simp [shouldConcealGenitals, hgenital, hrevealing, hasDisplaySlot_eq, hbody, hupper]
  | false =>
    have hpelvis := hcovers.resolve_left fun h => Bool.false_ne_true (hbody.symm.trans h)
    exact shouldConcealGenitals_of_marked hgenital hrevealing hbody (Or.inr hpelvis)

/-- The readers agree with the classifiers on a settled armor outside both form lists. -/
theorem readsVerdict_of_settled (hnamed : LookupsNamed game) (hregular : Regular game armor)
    (hgenital : isSosTngGenitalArmor game armor = false)
    (hrevealingList : isListed game armor kSosRevealingArmors = false)
    (hconcealingList : isListed game armor kSosConcealingArmors = false)
    (hsettled : (correct game armor).keywords = armor.keywords) : ReadsVerdict game armor := by
  have hagrees : hasSlot (getArmorDisplaySlotMask armor) bodySlotMask = true →
      AgreesByEditorID game armor := fun hslot =>
    (agrees_of_settled hnamed hregular.nodup hgenital hslot hsettled).byEditorID hnamed hregular
  constructor
  case upper =>
    intro hupper actor
    have hslot := hasSlot_of_upperOnly game hupper
    have hkeywords := ((hagrees hslot).revealing hupper).2
    have hcovering : isGenitalCoveringArmor game actor armor =
        hasKeywordEditorID game armor (otherSexEditorID actor) :=
      isGenitalCoveringArmor_eq hconcealingList hkeywords
    constructor
    · simp [shouldConcealGenitals, hgenital, hasDisplaySlot_eq, hslot, hupper]
    · cases hother : hasKeywordEditorID game armor (otherSexEditorID actor) <;>
        simp [shouldRevealGenitals, hgenital, hcovering, hother, hupper]
  case body =>
    intro hslot hupper actor
    exact conceals_of_no_revealing hgenital hrevealingList ((hagrees hslot).covering hupper) hupper
      (Or.inl hslot) actor
  case pelvis =>
    intro hslot hpelvis actor
    have hupper : isLikelyUpperOnlyBodyArmor game armor = false := by
      simp [isLikelyUpperOnlyBodyArmor, hslot]
    have hbranch : correctionBranch game armor = .pelvisConcealing := by
      simp [correctionBranch, hgenital, hupper, hslot, hpelvis]
    rw [correct_eq hregular.nodup, withKeywords_keywords, hbranch] at hsettled
    have hnone : CarriesNone game armor revealingEditorIDs :=
      carriesNone_iff.mpr fun keyword => (mem_of_settled hnamed hsettled keyword).2
    have hkeywords : ∀ name ∈ revealingEditorIDs, hasKeywordEditorID game armor name = false :=
      fun _ hname => hasKeyword_eq_false hregular revealing_subset_managed hnone hname
    exact conceals_of_no_revealing hgenital hrevealingList hkeywords hupper (Or.inr hpelvis) actor

end FittingSchlongs.Keywords
