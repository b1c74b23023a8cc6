import FittingSchlongs.Armor.Fieldwise
import FittingSchlongs.Foundation.Changes
import FittingSchlongs.Keywords.Convergence

/-! # How often a verdict can change

A rewrite changes the text that the next pass reads, and so may change the branch it takes. A
blocker can come together once and an explicit upper-only term once, both only on body armor;
a slot-49 garment stays one.
-/

namespace FittingSchlongs.Keywords
open Armor Text Foundation.ListUpdates Foundation.Occurrence Foundation.Changes

variable {game : GameData} {armor : TESObjectARMO}

/-! ## Slot-49 garments -/

theorem revealingWords_alien : ∀ term ∈ kLowerBodyTerms, ∀ name ∈ revealingEditorIDs,
    ∀ w ∈ fieldWords name, ∀ test ∈ termPattern term, test w = false := by decide +kernel

theorem lowerText_corrected (hnamed : LookupsNamed game)
    (h : containsAnySearchTerm (buildArmorClassificationText game armor) kLowerBodyTerms = true) :
    textHas game armor kLowerBodyTerms
      (correctedArray (lookupRuntimeKeywords game) .pelvisConcealing armor.keywords) = true := by
  rw [← @withKeywords_self armor, containsAnySearchTerm_iff_occurs lowerTerms_wellFormed,
    searchWords_classificationText] at h
  obtain ⟨term, hterm, hoccurs⟩ := h
  obtain ⟨added, heq, -⟩ := foldl_appendEntry_eq
    (without (revealingEditorIDs.map game.lookupKeyword) armor.keywords)
    (concealingEditorIDs.map game.lookupKeyword)
  rw [textHas, containsAnySearchTerm_iff_occurs lowerTerms_wellFormed,
    searchWords_classificationText, correctedArray_eq]
  refine ⟨term, hterm, ?_⟩
  change Occurs _ (_ ++ List.flatMap _ (List.foldl appendEntry
    (without (revealingEditorIDs.map game.lookupKeyword) armor.keywords)
    (concealingEditorIDs.map game.lookupKeyword)))
  rw [heq, List.flatMap_append, ← List.append_assoc]
  apply Occurs.append_right
  apply hoccurs.filter_blocks (termPattern_ne_nil term)
  intro entry _ hdropped w hw
  simp only [Bool.not_eq_false', Bool.and_eq_true, List.contains_iff_mem] at hdropped
  obtain ⟨keyword, rfl⟩ := Option.isSome_iff_exists.mp hdropped.1
  obtain ⟨name, hname, hlookup⟩ := List.mem_map.mp hdropped.2
  rw [keywordWords, hnamed name (revealing_subset_managed hname) keyword hlookup] at hw
  exact revealingWords_alien term hterm name hname w hw

theorem hasConcealing_corrected (hnamed : LookupsNamed game) {name : Bytes}
    (hname : name ∈ concealingEditorIDs) (h : hasKeywordEditorID game armor name = true) :
    hasKeywordEditorID game (withKeywords armor
      (correctedArray (lookupRuntimeKeywords game) .pelvisConcealing armor.keywords)) name = true := by
  have hmanaged := concealing_subset_managed hname
  have hne := ne_nil_of_managed hmanaged
  obtain ⟨keyword, hmem, hid⟩ := (hasKeywordEditorID_iff game hne).mp h
  rw [hasKeyword_withKeywords hne]
  refine ⟨keyword, (mem_correctedArray_iff _ _).mpr (Or.inl ⟨hmem, fun hlookup => ?_⟩), hid⟩
  obtain ⟨other, hother, hlookup⟩ := List.mem_map.mp hlookup
  rw [hnamed other (revealing_subset_managed hother) keyword hlookup] at hid
  exact revealing_disjoint_concealing hother (hid ▸ hname)

theorem branch_after_pelvis (hnamed : LookupsNamed game)
    (h : correctionBranch game armor = .pelvisConcealing) :
    correctionBranch game (withKeywords armor
      (correctedArray (lookupRuntimeKeywords game) .pelvisConcealing armor.keywords)) =
        .pelvisConcealing := by
  obtain ⟨hgenital, hbody, hslot⟩ := branch_pelvisConcealing h
  have hpelvis := pelvis_of_branch h
  have hgenital' := (isSosTngGenitalArmor_corrected hnamed .pelvisConcealing).trans hgenital
  have hagain : isLikelyGenitalConcealingPelvisArmor game (withKeywords armor
      (correctedArray (lookupRuntimeKeywords game) .pelvisConcealing armor.keywords)) = true := by
    simp only [isLikelyGenitalConcealingPelvisArmor, getArmorDisplaySlotMask_withKeywords, hslot,
      Bool.not_true, Bool.false_eq_true, ↓reduceIte] at hpelvis ⊢
    split_ifs at hpelvis with hmarked
    · rw [Bool.or_eq_true] at hmarked
      rw [if_pos]
      rw [Bool.or_eq_true]
      exact hmarked.imp (hasConcealing_corrected hnamed (by decide))
        (hasConcealing_corrected hnamed (by decide))
    · split_ifs
      · rfl
      · exact lowerText_corrected hnamed hpelvis
  simp [correctionBranch, hgenital', isLikelyUpperOnlyBodyArmor,
    getArmorDisplaySlotMask_withKeywords, hbody, hagain]

/-! ## The rank of a verdict -/

/-- How many changes of its branch an armor has left at most. -/
def branchRank (game : GameData) (armor : TESObjectARMO) : ℕ :=
  match correctionBranch game armor with
  | .upperRevealing => if textHas game armor kExplicitUpperOnlyTerms armor.keywords then 0 else 2
  | .bodyDefault => 1
  | _ => 0

theorem explicit_after_upper (hnamed : LookupsNamed game) (hnodup : armor.keywords.Nodup)
    (hbranch : correctionBranch game armor = .upperRevealing)
    (hexplicit : textHas game armor kExplicitUpperOnlyTerms armor.keywords = true) :
    correctionBranch game (correct game armor) = .upperRevealing ∧
      textHas game (correct game armor) kExplicitUpperOnlyTerms (correct game armor).keywords =
        true := by
  obtain ⟨hgenital, hslot, hupper⟩ := branch_upperRevealing hbranch
  have hkept : textHas game armor kExplicitUpperOnlyTerms
      (keywordsWithout game armor concealingEditorIDs) = true :=
    textHas_without hnamed concealing_subset_managed explicit_mem hexplicit
  rw [correct_eq hnodup, hbranch, branch_after_upper hnamed hgenital hslot hupper,
    if_pos (Or.inl hkept)]
  refine ⟨rfl, ?_⟩
  exact (textHas_foldl_appendEntry hnamed addedRevealing_subset_managed explicit_mem _).trans hkept

theorem branchRank_le_two : branchRank game armor ≤ 2 := by
  rw [branchRank]
  split
  · split_ifs
    · exact Nat.zero_le 2
    · exact le_refl 2
  · exact one_le_two
  · exact Nat.zero_le 2

theorem branchRank_le_one (hupper : isLikelyUpperOnlyBodyArmor game armor = false) :
    branchRank game armor ≤ 1 := by
  cases hbranch : correctionBranch game armor with
  | upperRevealing =>
    obtain ⟨-, -, hupper'⟩ := branch_upperRevealing hbranch
    exact absurd (hupper.symm.trans hupper') Bool.false_ne_true
  | bodyDefault => simp only [branchRank, hbranch, le_refl]
  | genital | pelvisConcealing | unrecognized => simp only [branchRank, hbranch, Nat.zero_le]

theorem branchRank_eq_zero (h : isSosTngGenitalArmor game armor = true ∨
      hasSlot (getArmorDisplaySlotMask armor) bodySlotMask = false ∨
      textHas game armor kExplicitUpperOnlyTerms armor.keywords = true) :
    branchRank game armor = 0 := by
  cases hbranch : correctionBranch game armor with
  | upperRevealing =>
    obtain ⟨hgenital, hslot, -⟩ := branch_upperRevealing hbranch
    have hexplicit : textHas game armor kExplicitUpperOnlyTerms armor.keywords = true := by
      simpa [hgenital, hslot] using h
    simp only [branchRank, hbranch, hexplicit, ↓reduceIte]
  | bodyDefault =>
    obtain ⟨hgenital, hslot, hupper⟩ := branch_bodyDefault hbranch
    have hexplicit : textHas game armor kExplicitUpperOnlyTerms armor.keywords = true := by
      simpa [hgenital, hslot] using h
    have hfound : isUpperOnlyText (buildArmorClassificationText game armor) = true := if_pos hexplicit
    rw [isLikelyUpperOnlyBodyArmor_of_slot game hslot, hfound] at hupper
    exact absurd hupper Bool.true_eq_false_eq_False
  | genital | pelvisConcealing | unrecognized => simp only [branchRank, hbranch]

theorem correct_of_idle (h : correctionBranch game armor = .genital ∨
    correctionBranch game armor = .unrecognized) : correct game armor = armor := by
  rcases h with h | h <;> simp only [correct, correctArmor, h]

/-- One rewrite lowers the rank or keeps it together with the branch. -/
theorem branchRank_correct (hnamed : LookupsNamed game) (hnodup : armor.keywords.Nodup) :
    branchRank game (correct game armor) < branchRank game armor ∨
      branchRank game (correct game armor) = branchRank game armor ∧
        correctionBranch game (correct game armor) = correctionBranch game armor := by
  have hcorrect : correct game armor = _ := correct_eq hnodup
  cases hbranch : correctionBranch game armor with
  | genital =>
    rw [correct_of_idle (Or.inl hbranch)]
    exact Or.inr ⟨rfl, hbranch⟩
  | upperRevealing =>
    by_cases hexplicit : textHas game armor kExplicitUpperOnlyTerms armor.keywords = true
    · obtain ⟨hafter, hkept⟩ := explicit_after_upper hnamed hnodup hbranch hexplicit
      exact Or.inr ⟨by simp only [branchRank, hbranch, hafter, hexplicit, hkept], hafter⟩
    · obtain ⟨hgenital, hslot, hupper⟩ := branch_upperRevealing hbranch
      have hafter := branch_after_upper hnamed hgenital hslot hupper
      rw [← hbranch, ← hcorrect] at hafter
      have hrank : branchRank game armor = 2 := by simp only [branchRank, hbranch, hexplicit]; rfl
      rw [hrank]
      split_ifs at hafter
      · rw [hbranch] at hafter
        simp only [branchRank, hafter]
        split_ifs
        · exact Or.inl (by decide)
        · exact Or.inr ⟨rfl, trivial⟩
      · left
        simp only [branchRank, hafter]
        decide
  | bodyDefault =>
    obtain ⟨hgenital, hslot, hupper⟩ := branch_bodyDefault hbranch
    have hafter := branch_after_bodyDefault hnamed hgenital hslot hupper
    rw [← hbranch, ← hcorrect, hbranch] at hafter
    split_ifs at hafter with hexplicit
    · left
      have hkept : textHas game (correct game armor) kExplicitUpperOnlyTerms
          (correct game armor).keywords = true := by
        rw [hcorrect, hbranch]
        exact hexplicit
      simp only [branchRank, hbranch, hafter, hkept]
      decide
    · exact Or.inr ⟨by simp only [branchRank, hbranch, hafter], hafter⟩
  | pelvisConcealing =>
    have hafter := branch_after_pelvis hnamed hbranch
    rw [← hbranch, ← hcorrect, hbranch] at hafter
    exact Or.inr ⟨by simp only [branchRank, hbranch, hafter], hafter⟩
  | unrecognized =>
    rw [correct_of_idle (Or.inr hbranch)]
    exact Or.inr ⟨rfl, hbranch⟩

/-! ## Along the passes -/

/-- How often the branch of the armor changes from one pass to the next. -/
def branchChanges (game : GameData) (passes : List (Option FormArray))
    (armors : ArmorRef → TESObjectARMO) (r : ArmorRef) : ℕ :=
  changes (fun armors dataHandler => applyRuntimeArmorCorrections game dataHandler armors)
    (fun armors => correctionBranch game (armors r)) passes armors

section Passes

variable {r : ArmorRef} {armors : ArmorRef → TESObjectARMO}

theorem branchChanges_le_rank (hnamed : LookupsNamed game) (hnodup : (armors r).keywords.Nodup)
    (passes : List (Option FormArray)) :
    branchChanges game passes armors r ≤ branchRank game (armors r) := by
  refine changes_le_rank (fun armors : ArmorRef → TESObjectARMO => (armors r).keywords.Nodup)
    (fun armors => branchRank game (armors r)) ?_ ?_ hnodup passes
  · intro armors dataHandler h
    by_cases hr : Registered r dataHandler
    · rw [pass_registered hr]
      exact nodup_correct h
    · rwa [pass_unregistered hr]
  · intro armors dataHandler h
    by_cases hr : Registered r dataHandler
    · rw [pass_registered hr]
      exact branchRank_correct hnamed h
    · rw [pass_unregistered hr]
      exact Or.inr ⟨rfl, rfl⟩

/-- Over any passes the branch of an armor changes at most twice, and at most once if it is not
upper-only at first. It never changes on genital armor, without the body slot or with an explicit
upper-only term. -/
theorem branch_changes_bounded (hnamed : LookupsNamed game)
    (hnodup : (armors r).keywords.Nodup) (passes : List (Option FormArray)) :
    branchChanges game passes armors r ≤ 2 ∧
    (isLikelyUpperOnlyBodyArmor game (armors r) = false →
      branchChanges game passes armors r ≤ 1) ∧
    (isSosTngGenitalArmor game (armors r) = true ∨
        hasSlot (getArmorDisplaySlotMask (armors r)) bodySlotMask = false ∨
        containsAnySearchTerm (buildArmorClassificationText game (armors r))
          kExplicitUpperOnlyTerms = true →
      correctionBranch game (runPasses game passes armors r) =
        correctionBranch game (armors r)) := by
  have hle := branchChanges_le_rank hnamed hnodup passes
  refine ⟨hle.trans branchRank_le_two, fun hupper => hle.trans (branchRank_le_one hupper), ?_⟩
  intro hfixed
  rw [branchRank_eq_zero hfixed, Nat.le_zero] at hle
  exact obs_of_changes_eq_zero hle

end Passes

/-- Keywords around SOS_Revealing and SOS_Concealing that form "bikini top" and "one piece"
without them. -/
def twiceSplitKeywords : List (Option BGSKeyword) :=
  [some ⟨0x11, some (stringView "Bikini")⟩, taggedGame.lookupKeyword kSosRevealing,
    some ⟨0x12, some (stringView "Top")⟩, some ⟨0x13, some (stringView "One")⟩,
    taggedGame.lookupKeyword kSosConcealing, some ⟨0x14, some (stringView "Piece")⟩]

/-- An armor whose verdict changes twice, which no further pass does a third time. -/
theorem branch_changes_bounded_twice :
    branchChanges taggedGame (List.replicate 4 (some ⟨[some 0], by decide⟩))
      (fun _ => withKeywords (plainArmor 1 "Mail" bodySlotMask) twiceSplitKeywords) 0 ≤ 2 :=
  (branch_changes_bounded taggedGame_named (by decide) _).1

example : branchChanges taggedGame (List.replicate 2 (some ⟨[some 0], by decide⟩))
    (fun _ => withKeywords (plainArmor 1 "Mail" bodySlotMask) twiceSplitKeywords) 0 = 2 := by
  decide +kernel

end FittingSchlongs.Keywords
