import FittingSchlongs.Keywords.Managed

/-! # Verdicts over keywords

After the pass the classifier's verdict on an armor should decide what the armor
reveals or conceals, whatever keywords other plugins had put on it. Covering
verdicts do. The upper-only verdict leaves the two gendered keywords in place.
-/

namespace FittingSchlongs.Keywords
open Armor Text Foundation.ListUpdates

variable (game : GameData) (actor : Option Actor) (armor : TESObjectARMO)

/-- The armor or one of its addons is in the form list. -/
def isListed (editorID : Bytes) : Bool :=
  isFormInList game editorID (some armor.toTESForm) ||
    armor.armorAddons.any (fun armorAddon =>
      isFormInList game editorID (armorAddon.map (·.toTESForm)))

/-! ## The readers, keyword by keyword -/

theorem isGenitalRevealingArmor_iff :
    isGenitalRevealingArmor game actor armor = true ↔
      hasKeywordEditorID game armor kSosRevealing = true ∨
      hasKeywordEditorID game armor kTngRevealing = true ∨
      (isActorFemale actor = true ∧
        hasKeywordEditorID game armor kTngRevealingOnlyWomen = true) ∨
      (isActorFemale actor = false ∧ hasKeywordEditorID game armor kTngRevealingOnlyMen = true) ∨
      isListed game armor kSosRevealingArmors = true := by
  simp only [isGenitalRevealingArmor, isListed, Bool.or_eq_true, Bool.and_eq_true,
    Bool.not_eq_true', or_assoc]

theorem isGenitalCoveringArmor_iff :
    isGenitalCoveringArmor game actor armor = true ↔
      hasKeywordEditorID game armor kSosConcealing = true ∨
      hasKeywordEditorID game armor kSosUnderwear = true ∨
      hasKeywordEditorID game armor kTngCovering = true ∨
      isListed game armor kSosConcealingArmors = true ∨
      (isActorFemale actor = true ∧ hasKeywordEditorID game armor kTngRevealingOnlyMen = true) ∨
      (isActorFemale actor = false ∧
        hasKeywordEditorID game armor kTngRevealingOnlyWomen = true) := by
  simp only [isGenitalCoveringArmor, isListed]
  split_ifs with hmarked haddon
  · simp only [Bool.or_eq_true] at hmarked ⊢
    tauto
  · simp only [haddon, Bool.or_true, true_or, or_true]
  · simp only [Bool.or_eq_true, Bool.and_eq_true, Bool.not_eq_true'] at hmarked haddon ⊢
    tauto

theorem isListed_withKeywords (array : List (Option BGSKeyword)) (editorID : Bytes) :
    isListed game (withKeywords armor array) editorID = isListed game armor editorID := rfl

variable {game actor armor}

theorem settled_of_revealing (hgenital : isSosTngGenitalArmor game armor = false)
    (h : isGenitalRevealingArmor game actor armor = true) :
    (shouldRevealGenitals game actor armor = true ∧
      shouldConcealGenitals game actor armor = false) ↔
      isGenitalCoveringArmor game actor armor = false := by
  cases hcovering : isGenitalCoveringArmor game actor armor <;>
    simp [shouldRevealGenitals, shouldConcealGenitals, hgenital, h, hcovering]

theorem shouldRevealGenitals_eq_false (hrevealing : isGenitalRevealingArmor game actor armor = false)
    (hupper : isLikelyUpperOnlyBodyArmor game armor = false) :
    shouldRevealGenitals game actor armor = false := by
  simp [shouldRevealGenitals, hrevealing, hupper]

/-- The three keywords that make an armor covering for every wearer. -/
def coveringEditorIDs : List Bytes := [kSosConcealing, kSosUnderwear, kTngCovering]

theorem covers_nobody_iff (hlisted : isListed game armor kSosConcealingArmors = false) :
    (∀ actor : Actor, isGenitalCoveringArmor game (some actor) armor = false) ↔
      hasKeywordEditorID game armor kTngRevealingOnlyWomen = false ∧
      hasKeywordEditorID game armor kTngRevealingOnlyMen = false ∧
      ∀ name ∈ coveringEditorIDs, hasKeywordEditorID game armor name = false := by
  simp only [← Bool.not_eq_true, isGenitalCoveringArmor_iff, hlisted, coveringEditorIDs,
    List.forall_mem_cons, List.not_mem_nil, false_imp_iff, implies_true, and_true]
  constructor
  · intro h
    have hfemale : isActorFemale (some (plainActor 1 true [])) = true := rfl
    have hmale : isActorFemale (some (plainActor 1 false [])) = false := rfl
    have hwoman := h (plainActor 1 true [])
    have hman := h (plainActor 1 false [])
    simp only [hfemale, hmale, not_or] at hwoman hman
    tauto
  · intro h actor
    tauto

/-! ## The upper-only branch -/

theorem branch_of_upperOnly (hgenital : isSosTngGenitalArmor game armor = false)
    (hupper : isLikelyUpperOnlyBodyArmor game armor = true) :
    correctionBranch game armor = .upperRevealing := by
  simp [correctionBranch, hgenital, hupper]

theorem hasGenderedKeyword_upperRevealing (hnamed : LookupsNamed game)
    (hunique : LookupsUnique game armor) {name : Bytes}
    (hname : name ∈ [kTngRevealingOnlyWomen, kTngRevealingOnlyMen]) :
    hasKeywordEditorID game (withKeywords armor
        (correctedArray (lookupRuntimeKeywords game) .upperRevealing armor.keywords)) name =
      hasKeywordEditorID game armor name := by
  have hrevealing : name ∈ revealingEditorIDs :=
    List.subset_append_right addedRevealingEditorIDs _ hname
  have hmanaged := revealing_subset_managed hrevealing
  have hconcealing : name ∉ concealingEditorIDs := revealing_disjoint_concealing hrevealing
  have hadded : name ∉ addedRevealingEditorIDs := fun h => added_disjoint_gendered h hname
  rw [Bool.eq_iff_iff, hasKeyword_corrected_iff hnamed hunique hmanaged]
  simp only [removedEditorIDs, addedEditorIDs, hconcealing, hadded, false_imp_iff, and_true,
    false_and, or_false]

theorem hasCoveringKeyword_upperRevealing (hnamed : LookupsNamed game)
    (hunique : LookupsUnique game armor) {name : Bytes} (hname : name ∈ coveringEditorIDs) :
    hasKeywordEditorID game (withKeywords armor
        (correctedArray (lookupRuntimeKeywords game) .upperRevealing armor.keywords)) name = false ↔
      (game.lookupKeyword name = none → hasKeywordEditorID game armor name = false) := by
  have hconcealing : name ∈ concealingEditorIDs :=
    List.subset_append_left _ [kTngUnderwear] hname
  have hmanaged := concealing_subset_managed hconcealing
  have hadded : name ∉ addedRevealingEditorIDs := fun h => revealing_disjoint_concealing
    (List.subset_append_left _ [kTngRevealingOnlyWomen, kTngRevealingOnlyMen] h) hconcealing
  rw [← Bool.not_eq_true, hasKeyword_corrected_iff hnamed hunique hmanaged]
  simp only [removedEditorIDs, addedEditorIDs, hconcealing, hadded, true_imp_iff, false_and,
    or_false, ← Bool.not_eq_true]
  tauto

theorem isGenitalRevealingArmor_upperRevealing (hnamed : LookupsNamed game)
    (hunique : LookupsUnique game armor)
    (hresolved : ∃ name ∈ addedRevealingEditorIDs, (game.lookupKeyword name).isSome = true) :
    isGenitalRevealingArmor game actor (withKeywords armor
      (correctedArray (lookupRuntimeKeywords game) .upperRevealing armor.keywords)) = true := by
  obtain ⟨name, hname, hsome⟩ := hresolved
  have hkeyword : hasKeywordEditorID game (withKeywords armor
      (correctedArray (lookupRuntimeKeywords game) .upperRevealing armor.keywords)) name = true :=
    (hasKeyword_corrected_iff hnamed hunique (addedRevealing_subset_managed hname)).mpr
      (Or.inr ⟨hname, hsome⟩)
  rw [isGenitalRevealingArmor_iff]
  simp only [addedRevealingEditorIDs, List.mem_cons, List.not_mem_nil, or_false] at hname
  cases hname with
  | inl h => exact Or.inl (h ▸ hkeyword)
  | inr h => exact Or.inr (Or.inl (h ▸ hkeyword))

/-- The pass settles an upper-only armor for every wearer exactly when no gendered keyword
and no covering keyword with an unanswered lookup stays on it. -/
theorem upperOnly_revealed_iff {formArray : FormArray} {armors : ArmorRef → TESObjectARMO}
    {r : ArmorRef} (hr : some r ∈ formArray.refs) (hnodup : (armors r).keywords.Nodup)
    (hnamed : LookupsNamed game) (hunique : LookupsUnique game (armors r))
    (hgenital : isSosTngGenitalArmor game (armors r) = false)
    (hlisted : isListed game (armors r) kSosConcealingArmors = false)
    (hupper : isLikelyUpperOnlyBodyArmor game (armors r) = true)
    (hresolved : ∃ name ∈ addedRevealingEditorIDs, (game.lookupKeyword name).isSome = true) :
    (∀ actor : Actor,
      shouldRevealGenitals game (some actor)
          (applyRuntimeArmorCorrections game (some formArray) armors r) = true ∧
        shouldConcealGenitals game (some actor)
          (applyRuntimeArmorCorrections game (some formArray) armors r) = false) ↔
      hasKeywordEditorID game (armors r) kTngRevealingOnlyWomen = false ∧
      hasKeywordEditorID game (armors r) kTngRevealingOnlyMen = false ∧
      ∀ name ∈ coveringEditorIDs, game.lookupKeyword name = none →
        hasKeywordEditorID game (armors r) name = false := by
  have hwomen := hasGenderedKeyword_upperRevealing hnamed hunique
    (List.mem_cons_self : kTngRevealingOnlyWomen ∈ _)
  have hmen := hasGenderedKeyword_upperRevealing hnamed hunique
    (List.mem_cons_of_mem _ List.mem_cons_self : kTngRevealingOnlyMen ∈ _)
  have hgenital' := (isSosTngGenitalArmor_corrected hnamed .upperRevealing).trans hgenital
  have hlisted' := (isListed_withKeywords game (armors r) (correctedArray
    (lookupRuntimeKeywords game) .upperRevealing (armors r).keywords) _).trans hlisted
  rw [applyRuntimeArmorCorrections_registered hr hnodup, branch_of_upperOnly hgenital hupper]
  rw [forall_congr' fun actor => settled_of_revealing hgenital'
    (isGenitalRevealingArmor_upperRevealing hnamed hunique hresolved), covers_nobody_iff hlisted',
    hwomen, hmen]
  exact and_congr_right fun _ => and_congr_right fun _ => forall₂_congr fun name hname =>
    hasCoveringKeyword_upperRevealing hnamed hunique hname

/-- A bikini top that other plugins had marked as covering is settled. -/
theorem upperOnly_revealed_iff_covering_top :
    shouldRevealGenitals taggedGame (some (plainActor 2 true []))
      (applyRuntimeArmorCorrections taggedGame (some ⟨[some 0], by decide⟩)
        (fun _ => tagged (plainArmor 1 "Bikini Top" bodySlotMask) [kSosConcealing, kTngCovering]) 0) =
      true :=
  ((upperOnly_revealed_iff (List.mem_singleton_self (some 0)) (by decide) taggedGame_named
    (by decide) (by decide) (by decide) (by decide)
    ⟨kSosRevealing, by decide⟩).mpr (by decide) (plainActor 2 true [])).1

/-- A bikini top marked as revealing on men only stays covering on women. -/
theorem men_only_top_not_settled :
    ¬ ∀ (game : GameData) (formArray : FormArray) (armors : ArmorRef → TESObjectARMO)
        (r : ArmorRef), some r ∈ formArray.refs → (armors r).keywords.Nodup →
      LookupsNamed game → LookupsUnique game (armors r) →
      isSosTngGenitalArmor game (armors r) = false →
      isListed game (armors r) kSosConcealingArmors = false →
      isLikelyUpperOnlyBodyArmor game (armors r) = true →
      (∃ name ∈ addedRevealingEditorIDs, (game.lookupKeyword name).isSome = true) →
      isLikelyUpperOnlyBodyArmor game
        (applyRuntimeArmorCorrections game (some formArray) armors r) = true →
      ∀ actor : Actor,
        shouldRevealGenitals game (some actor)
            (applyRuntimeArmorCorrections game (some formArray) armors r) = true ∧
          shouldConcealGenitals game (some actor)
            (applyRuntimeArmorCorrections game (some formArray) armors r) = false := by
  intro h
  have htop := h taggedGame ⟨[some 0], by decide⟩
    (fun _ => tagged (plainArmor 1 "Bikini Top" bodySlotMask) [kTngRevealingOnlyMen]) 0
    (List.mem_singleton_self (some 0)) (by decide) taggedGame_named
    (by decide) (by decide) (by decide) (by decide +kernel)
    ⟨kSosRevealing, by decide⟩ (by decide +kernel) (plainActor 2 true [])
  have hcovered : shouldRevealGenitals taggedGame (some (plainActor 2 true []))
      (applyRuntimeArmorCorrections taggedGame (some ⟨[some 0], by decide⟩)
        (fun _ => tagged (plainArmor 1 "Bikini Top" bodySlotMask) [kTngRevealingOnlyMen]) 0) =
      false := by decide +kernel
  rw [hcovered] at htop
  exact Bool.false_ne_true htop.1

/-! ## The covering branches -/

theorem isGenitalRevealingArmor_eq_false
    (hlisted : isListed game armor kSosRevealingArmors = false)
    (hkeywords : ∀ name ∈ revealingEditorIDs, hasKeywordEditorID game armor name = false) :
    isGenitalRevealingArmor game actor armor = false := by
  simp only [revealingEditorIDs, List.forall_mem_cons, List.not_mem_nil, false_imp_iff,
    implies_true, and_true] at hkeywords
  rw [← Bool.not_eq_true, isGenitalRevealingArmor_iff]
  simp [hkeywords, hlisted]

theorem bodyDefault_conceals {formArray : FormArray} {armors : ArmorRef → TESObjectARMO}
    {r : ArmorRef} (hr : some r ∈ formArray.refs) (hnodup : (armors r).keywords.Nodup)
    (hnamed : LookupsNamed game) (hunique : LookupsUnique game (armors r))
    (hcomplete : LookupsComplete game (armors r))
    (hlisted : isListed game (armors r) kSosRevealingArmors = false)
    (hbranch : correctionBranch game (armors r) = .bodyDefault)
    (hupper : isLikelyUpperOnlyBodyArmor game
      (applyRuntimeArmorCorrections game (some formArray) armors r) = false) :
    shouldConcealGenitals game actor
        (applyRuntimeArmorCorrections game (some formArray) armors r) = true ∧
      shouldRevealGenitals game actor
        (applyRuntimeArmorCorrections game (some formArray) armors r) = false := by
  obtain ⟨hgenital, hslot, -⟩ := branch_bodyDefault hbranch
  rw [applyRuntimeArmorCorrections_registered hr hnodup, hbranch] at hupper ⊢
  have hgenital' := (isSosTngGenitalArmor_corrected hnamed .bodyDefault).trans hgenital
  have hlisted' := (isListed_withKeywords game (armors r) (correctedArray
    (lookupRuntimeKeywords game) .bodyDefault (armors r).keywords) _).trans hlisted
  have hrevealing : isGenitalRevealingArmor game actor _ = false :=
    isGenitalRevealingArmor_eq_false hlisted' fun name hname =>
      hasRemovedKeyword_corrected hnamed hunique hcomplete hname
  apply And.intro
  · simp [shouldConcealGenitals, hgenital', hrevealing, hasDisplaySlot_eq,
      getArmorDisplaySlotMask_withKeywords, hslot, hupper]
  · exact shouldRevealGenitals_eq_false hrevealing hupper

/-- A resolved concealing keyword conceals a slot-49 garment, through the covering marks or,
for TNG_Underwear, through the pelvis classifier. -/
theorem covers_or_pelvis (actor : Option Actor) {name : Bytes} (hname : name ∈ concealingEditorIDs)
    (hkeyword : hasKeywordEditorID game armor name = true)
    (hslot : hasSlot (getArmorDisplaySlotMask armor) pelvisPrimarySlotMask = true) :
    isGenitalCoveringArmor game actor armor = true ∨
      isLikelyGenitalConcealingPelvisArmor game armor = true := by
  simp only [concealingEditorIDs, List.mem_cons, List.not_mem_nil, or_false] at hname
  rw [isGenitalCoveringArmor_iff]
  rcases hname with rfl | rfl | rfl | rfl
  · exact Or.inl (Or.inl hkeyword)
  · exact Or.inl (Or.inr (Or.inl hkeyword))
  · exact Or.inl (Or.inr (Or.inr (Or.inl hkeyword)))
  · exact Or.inr (by simp [isLikelyGenitalConcealingPelvisArmor, hslot, hkeyword])

theorem shouldConcealGenitals_of_marked (hgenital : isSosTngGenitalArmor game armor = false)
    (hrevealing : isGenitalRevealingArmor game actor armor = false)
    (hbody : hasSlot (getArmorDisplaySlotMask armor) bodySlotMask = false)
    (h : isGenitalCoveringArmor game actor armor = true ∨
      isLikelyGenitalConcealingPelvisArmor game armor = true) :
    shouldConcealGenitals game actor armor = true := by
  simp only [shouldConcealGenitals, hgenital, hrevealing, hasDisplaySlot_eq, hbody, Bool.or_self,
    Bool.false_eq_true, ↓reduceIte, Bool.or_eq_true]
  cases h with
  | inl hcovering => exact Or.inl (Or.inr hcovering)
  | inr hpelvis => exact Or.inr hpelvis

theorem pelvisConcealing_conceals {formArray : FormArray} {armors : ArmorRef → TESObjectARMO}
    {r : ArmorRef} (hr : some r ∈ formArray.refs) (hnodup : (armors r).keywords.Nodup)
    (hnamed : LookupsNamed game) (hunique : LookupsUnique game (armors r))
    (hcomplete : LookupsComplete game (armors r))
    (hlisted : isListed game (armors r) kSosRevealingArmors = false)
    (hbranch : correctionBranch game (armors r) = .pelvisConcealing)
    (hresolved : ∃ name ∈ concealingEditorIDs, (game.lookupKeyword name).isSome = true) :
    shouldConcealGenitals game actor
        (applyRuntimeArmorCorrections game (some formArray) armors r) = true ∧
      shouldRevealGenitals game actor
        (applyRuntimeArmorCorrections game (some formArray) armors r) = false := by
  obtain ⟨hgenital, hbody, hpelvis⟩ := branch_pelvisConcealing hbranch
  obtain ⟨resolved, hmem, hsome⟩ := hresolved
  rw [applyRuntimeArmorCorrections_registered hr hnodup, hbranch]
  have hgenital' := (isSosTngGenitalArmor_corrected hnamed .pelvisConcealing).trans hgenital
  have hlisted' := (isListed_withKeywords game (armors r) (correctedArray
    (lookupRuntimeKeywords game) .pelvisConcealing (armors r).keywords) _).trans hlisted
  have hkeyword : hasKeywordEditorID game (withKeywords (armors r) (correctedArray
      (lookupRuntimeKeywords game) .pelvisConcealing (armors r).keywords)) resolved = true :=
    (hasKeyword_corrected_iff hnamed hunique (concealing_subset_managed hmem)).mpr
      (Or.inr ⟨hmem, hsome⟩)
  have hrevealing : isGenitalRevealingArmor game actor _ = false :=
    isGenitalRevealingArmor_eq_false hlisted' fun name hname =>
      hasRemovedKeyword_corrected hnamed hunique hcomplete hname
  have hcovered := covers_or_pelvis actor hmem hkeyword hpelvis
  apply And.intro
  · exact shouldConcealGenitals_of_marked hgenital' hrevealing hbody hcovered
  · apply shouldRevealGenitals_eq_false hrevealing
    simp [isLikelyUpperOnlyBodyArmor, getArmorDisplaySlotMask_withKeywords, hbody]

/-- Covering verdicts decide for every wearer. -/
theorem covering_verdicts_conceal {formArray : FormArray} {armors : ArmorRef → TESObjectARMO}
    {r : ArmorRef} (hr : some r ∈ formArray.refs) (hnodup : (armors r).keywords.Nodup)
    (hnamed : LookupsNamed game) (hunique : LookupsUnique game (armors r))
    (hcomplete : LookupsComplete game (armors r))
    (hlisted : isListed game (armors r) kSosRevealingArmors = false) :
    (correctionBranch game (armors r) = .pelvisConcealing →
      (∃ name ∈ concealingEditorIDs, (game.lookupKeyword name).isSome = true) →
      ∀ actor : Actor,
        shouldConcealGenitals game (some actor)
            (applyRuntimeArmorCorrections game (some formArray) armors r) = true ∧
          shouldRevealGenitals game (some actor)
            (applyRuntimeArmorCorrections game (some formArray) armors r) = false) ∧
    (correctionBranch game (armors r) = .bodyDefault →
      isLikelyUpperOnlyBodyArmor game
        (applyRuntimeArmorCorrections game (some formArray) armors r) = false →
      ∀ actor : Actor,
        shouldConcealGenitals game (some actor)
            (applyRuntimeArmorCorrections game (some formArray) armors r) = true ∧
          shouldRevealGenitals game (some actor)
            (applyRuntimeArmorCorrections game (some formArray) armors r) = false) := by
  apply And.intro
  · intro hbranch hresolved actor
    exact pelvisConcealing_conceals hr hnodup hnamed hunique hcomplete hlisted hbranch hresolved
  · intro hbranch hupper actor
    exact bodyDefault_conceals hr hnodup hnamed hunique hcomplete hlisted hbranch hupper

/-- A bikini that another plugin had marked as revealing conceals after the pass. -/
theorem covering_verdicts_conceal_bikini :
    shouldConcealGenitals taggedGame (some (plainActor 2 true []))
      (applyRuntimeArmorCorrections taggedGame (some ⟨[some 0], by decide⟩)
        (fun _ => tagged (plainArmor 1 "Bikini" pelvisPrimarySlotMask) [kTngRevealing]) 0) = true :=
  ((covering_verdicts_conceal (List.mem_singleton_self (some 0)) (by decide) taggedGame_named
    (by decide) (by decide) (by decide)).1 (by decide)
    ⟨kSosConcealing, by decide⟩ (plainActor 2 true [])).1

end FittingSchlongs.Keywords
