import FittingSchlongs.Keywords.Verdict

/-! # Running the pass twice

A second pass repeats the rewrite of the first and changes nothing, unless the first
pass changed the verdict it was made from. That happens only to body armor, when a
dropped keyword had kept the two words of a term apart.
-/

namespace FittingSchlongs.Keywords
open Armor Text Foundation.ListUpdates

/-! ## One rewrite, twice -/

section Rewrites

variable {game : GameData}

theorem lookups_disjoint (hnamed : LookupsNamed game) {names others : List Bytes}
    (hnames : names ⊆ managedEditorIDs) (hothers : others ⊆ managedEditorIDs)
    (hdisjoint : ∀ name ∈ names, name ∉ others) {keyword : BGSKeyword}
    (h : some keyword ∈ names.map game.lookupKeyword) :
    some keyword ∉ others.map game.lookupKeyword := by
  intro hother
  obtain ⟨name, hname, hlookup⟩ := List.mem_map.mp h
  obtain ⟨other, hother, hlookup'⟩ := List.mem_map.mp hother
  have heq : name = other := by
    rw [← hnamed name (hnames hname) keyword hlookup,
      hnamed other (hothers hother) keyword hlookup']
  exact hdisjoint name hname (heq ▸ hother)

theorem rewrite_twice (hnamed : LookupsNamed game) {names others : List Bytes}
    (hnames : names ⊆ managedEditorIDs) (hothers : others ⊆ managedEditorIDs)
    (hdisjoint : ∀ name ∈ names, name ∉ others) (array : List (Option BGSKeyword)) :
    (names.map game.lookupKeyword).foldl appendEntry (without (others.map game.lookupKeyword)
        ((names.map game.lookupKeyword).foldl appendEntry
          (without (others.map game.lookupKeyword) array))) =
      (names.map game.lookupKeyword).foldl appendEntry
        (without (others.map game.lookupKeyword) array) := by
  rw [without_eq_self, foldl_appendEntry_eq_self]
  · intro keyword hkeyword
    exact mem_foldl_appendEntry.mpr (Or.inr hkeyword)
  · intro keyword hother hmem
    rw [mem_foldl_appendEntry, mem_without] at hmem
    cases hmem with
    | inl hkept => exact hkept.2 hother
    | inr hadded => exact lookups_disjoint hnamed hnames hothers hdisjoint hadded hother

theorem correctedArray_twice (hnamed : LookupsNamed game) (branch : CorrectionBranch)
    (array : List (Option BGSKeyword)) :
    correctedArray (lookupRuntimeKeywords game) branch
        (correctedArray (lookupRuntimeKeywords game) branch array) =
      correctedArray (lookupRuntimeKeywords game) branch array := by
  simp only [correctedArray_eq]
  exact rewrite_twice hnamed (added_subset_managed branch) (removed_subset_managed branch)
    (added_not_removed branch) array

end Rewrites

/-! ## The branch of the second pass -/

section Branches

variable {game : GameData} {armor : TESObjectARMO}

theorem correctionBranch_body (array : List (Option BGSKeyword))
    (hgenital : isSosTngGenitalArmor game (withKeywords armor array) = false)
    (hslot : hasSlot (getArmorDisplaySlotMask armor) bodySlotMask = true) :
    correctionBranch game (withKeywords armor array) =
      if isUpperOnlyText (buildArmorClassificationText game (withKeywords armor array)) then
        .upperRevealing
      else .bodyDefault := by
  have hslot' : hasSlot (getArmorDisplaySlotMask (withKeywords armor array)) bodySlotMask = true :=
    hslot
  simp [correctionBranch, hgenital, isLikelyUpperOnlyBodyArmor_of_slot game hslot', hslot']

theorem correctionBranch_pelvis (array : List (Option BGSKeyword))
    (hgenital : isSosTngGenitalArmor game (withKeywords armor array) = false)
    (hslot : hasSlot (getArmorDisplaySlotMask armor) bodySlotMask = false) :
    correctionBranch game (withKeywords armor array) = .pelvisConcealing ∨
      correctionBranch game (withKeywords armor array) = .unrecognized := by
  have hslot' : hasSlot (getArmorDisplaySlotMask (withKeywords armor array)) bodySlotMask = false :=
    hslot
  simp only [correctionBranch, hgenital, isLikelyUpperOnlyBodyArmor, hslot', Bool.false_eq_true,
    ↓reduceIte, Bool.not_false]
  split_ifs
  · exact Or.inl rfl
  · exact Or.inr rfl

end Branches

/-! ## When a second pass changes nothing -/

section Settling

variable (game : GameData) (armor : TESObjectARMO)

def NothingToAdd : Prop := ∀ name ∈ addedRevealingEditorIDs, game.lookupKeyword name = none

def CarriesNone (names : List Bytes) : Prop :=
  ∀ name ∈ names, ∀ keyword ∈ game.lookupKeyword name, some keyword ∉ armor.keywords

def keywordsWithout (names : List Bytes) : List (Option BGSKeyword) :=
  without (names.map game.lookupKeyword) armor.keywords

/-- The verdict on a body armor survives its own rewrite, or the opposite rewrite would
have nothing to change. -/
def VerdictSettles : Prop :=
  isSosTngGenitalArmor game armor = false →
  hasSlot (getArmorDisplaySlotMask armor) bodySlotMask = true →
  if isLikelyUpperOnlyBodyArmor game armor then
    textHas game armor kExplicitUpperOnlyTerms (keywordsWithout game armor concealingEditorIDs) =
        true ∨
      textHas game armor kLowerBodyBlockers (keywordsWithout game armor concealingEditorIDs) =
        false ∨
      NothingToAdd game ∧ CarriesNone game armor revealingEditorIDs
  else
    textHas game armor kExplicitUpperOnlyTerms (keywordsWithout game armor revealingEditorIDs) =
        false ∨
      NothingToAdd game ∧ CarriesNone game armor concealingEditorIDs

variable {game armor}

theorem carriesNone_iff {names : List Bytes} :
    CarriesNone game armor names ↔
      ∀ keyword, some keyword ∈ names.map game.lookupKeyword → some keyword ∉ armor.keywords := by
  constructor
  · intro h keyword hkeyword
    obtain ⟨name, hname, hlookup⟩ := List.mem_map.mp hkeyword
    exact h name hname keyword hlookup
  · intro h name hname keyword hlookup
    exact h keyword (List.mem_map.mpr ⟨name, hname, hlookup⟩)

theorem nothingToAdd_iff :
    NothingToAdd game ↔ ∀ keyword, some keyword ∉ addedRevealingEditorIDs.map game.lookupKeyword := by
  constructor
  · intro h keyword hkeyword
    obtain ⟨name, hname, hlookup⟩ := List.mem_map.mp hkeyword
    rw [h name hname] at hlookup
    exact Option.some_ne_none keyword hlookup.symm
  · intro h name hname
    by_contra hsome
    obtain ⟨keyword, hlookup⟩ := Option.ne_none_iff_exists'.mp hsome
    exact h keyword (List.mem_map.mpr ⟨name, hname, hlookup⟩)

theorem verdictSettles_of_no_body
    (hslot : hasSlot (getArmorDisplaySlotMask armor) bodySlotMask = false) :
    VerdictSettles game armor := by
  intro _ hbody
  rw [hslot] at hbody
  exact absurd hbody Bool.false_ne_true

theorem bodyDefault_after_upper (hnamed : LookupsNamed game) :
    without (revealingEditorIDs.map game.lookupKeyword)
        ((addedRevealingEditorIDs.map game.lookupKeyword).foldl appendEntry
          (keywordsWithout game armor concealingEditorIDs)) =
      (addedRevealingEditorIDs.map game.lookupKeyword).foldl appendEntry
        (keywordsWithout game armor concealingEditorIDs) ↔
      NothingToAdd game ∧ CarriesNone game armor revealingEditorIDs := by
  rw [nothingToAdd_iff, carriesNone_iff]
  have hdisjoint : ∀ keyword, some keyword ∈ revealingEditorIDs.map game.lookupKeyword →
      some keyword ∉ concealingEditorIDs.map game.lookupKeyword := fun _ =>
    lookups_disjoint hnamed revealing_subset_managed concealing_subset_managed (by decide)
  have hsub : addedRevealingEditorIDs ⊆ revealingEditorIDs := by decide
  constructor
  · intro h
    apply And.intro
    · intro keyword hadded
      exact not_mem_of_without_eq h (List.map_subset _ hsub hadded)
        (mem_foldl_appendEntry.mpr (Or.inr hadded))
    · intro keyword hrevealing hmem
      exact not_mem_of_without_eq h hrevealing (mem_foldl_appendEntry.mpr
        (Or.inl (mem_without.mpr ⟨hmem, hdisjoint keyword hrevealing⟩)))
  · rintro ⟨hnothing, hnone⟩
    apply without_eq_self
    intro keyword hrevealing hmem
    rw [mem_foldl_appendEntry, keywordsWithout, mem_without] at hmem
    cases hmem with
    | inl hkept => exact hnone keyword hrevealing hkept.1
    | inr hadded => exact hnothing keyword hadded

theorem upper_after_bodyDefault (hnamed : LookupsNamed game) :
    (addedRevealingEditorIDs.map game.lookupKeyword).foldl appendEntry
        (without (concealingEditorIDs.map game.lookupKeyword)
          (keywordsWithout game armor revealingEditorIDs)) =
      keywordsWithout game armor revealingEditorIDs ↔
      NothingToAdd game ∧ CarriesNone game armor concealingEditorIDs := by
  rw [nothingToAdd_iff, carriesNone_iff]
  have hsub : addedRevealingEditorIDs ⊆ revealingEditorIDs := by decide
  have hdisjoint : ∀ keyword, some keyword ∈ concealingEditorIDs.map game.lookupKeyword →
      some keyword ∉ revealingEditorIDs.map game.lookupKeyword := fun _ =>
    lookups_disjoint hnamed concealing_subset_managed revealing_subset_managed (by decide)
  constructor
  · intro h
    have hmem : ∀ keyword, some keyword ∈ keywordsWithout game armor revealingEditorIDs ↔ _ :=
      fun keyword => by rw [← h, mem_foldl_appendEntry, mem_without]
    have hnothing : ∀ keyword,
        some keyword ∉ addedRevealingEditorIDs.map game.lookupKeyword := by
      intro keyword hadded
      have hkept := (hmem keyword).mpr (Or.inr hadded)
      exact (mem_without.mp hkept).2 (List.map_subset _ hsub hadded)
    refine ⟨hnothing, fun keyword hconcealing hcarried => ?_⟩
    have hkept : some keyword ∈ keywordsWithout game armor revealingEditorIDs :=
      mem_without.mpr ⟨hcarried, hdisjoint keyword hconcealing⟩
    cases (hmem keyword).mp hkept with
    | inl hleft => exact hleft.2 hconcealing
    | inr hadded => exact hnothing keyword hadded
  · rintro ⟨hnothing, hnone⟩
    rw [foldl_appendEntry_eq_self fun keyword hadded => absurd hadded (hnothing keyword)]
    apply without_eq_self
    intro keyword hconcealing hmem
    exact hnone keyword hconcealing (mem_without.mp hmem).1

/-- The upper-only rewrite leaves body armor upper-only unless a blocker came together. -/
theorem branch_after_upper (hnamed : LookupsNamed game)
    (hgenital : isSosTngGenitalArmor game armor = false)
    (hslot : hasSlot (getArmorDisplaySlotMask armor) bodySlotMask = true)
    (hupper : isLikelyUpperOnlyBodyArmor game armor = true) :
    correctionBranch game (withKeywords armor
        (correctedArray (lookupRuntimeKeywords game) .upperRevealing armor.keywords)) =
      if textHas game armor kExplicitUpperOnlyTerms
            (keywordsWithout game armor concealingEditorIDs) = true ∨
          textHas game armor kLowerBodyBlockers
            (keywordsWithout game armor concealingEditorIDs) = false then .upperRevealing
      else .bodyDefault := by
  rw [isLikelyUpperOnlyBodyArmor_of_slot game hslot] at hupper
  rw [correctionBranch_body _ ((isSosTngGenitalArmor_corrected hnamed _).trans hgenital) hslot,
    correctedArray, lookupRuntimeKeywords_addedRevealing, lookupRuntimeKeywords_concealing,
    isUpperOnlyText_foldl_appendEntry hnamed addedRevealing_subset_managed]
  exact if_congr (upperOnly_without_iff hnamed concealing_subset_managed hupper) rfl rfl

/-- The covering rewrite leaves body armor covering unless an explicit term came together. -/
theorem branch_after_bodyDefault (hnamed : LookupsNamed game)
    (hgenital : isSosTngGenitalArmor game armor = false)
    (hslot : hasSlot (getArmorDisplaySlotMask armor) bodySlotMask = true)
    (hupper : isLikelyUpperOnlyBodyArmor game armor = false) :
    correctionBranch game (withKeywords armor
        (correctedArray (lookupRuntimeKeywords game) .bodyDefault armor.keywords)) =
      if textHas game armor kExplicitUpperOnlyTerms
          (keywordsWithout game armor revealingEditorIDs) = true then .upperRevealing
      else .bodyDefault := by
  rw [isLikelyUpperOnlyBodyArmor_of_slot game hslot] at hupper
  rw [correctionBranch_body _ ((isSosTngGenitalArmor_corrected hnamed _).trans hgenital) hslot,
    correctedArray, lookupRuntimeKeywords_revealing]
  exact if_congr (lower_without_iff hnamed revealing_subset_managed hupper) rfl rfl

/-- Rewriting a corrected armor's array again changes nothing exactly when its verdict settles. -/
theorem correctedArray_settles_iff (hnamed : LookupsNamed game) {array : List (Option BGSKeyword)}
    (harray : array = correctedArray (lookupRuntimeKeywords game) (correctionBranch game armor)
      armor.keywords) :
    correctedArray (lookupRuntimeKeywords game)
        (correctionBranch game (withKeywords armor array)) array = array ↔
      VerdictSettles game armor := by
  cases hbranch : correctionBranch game armor with
  | genital =>
    have hgenital := branch_genital hbranch
    rw [hbranch] at harray
    subst harray
    simp [VerdictSettles, hgenital, correctedArray, hbranch]
  | upperRevealing =>
    obtain ⟨hgenital, hslot, hupper⟩ := branch_upperRevealing hbranch
    rw [hbranch] at harray
    subst harray
    rw [branch_after_upper hnamed hgenital hslot hupper]
    simp only [VerdictSettles, hgenital, hslot, hupper, true_imp_iff, ↓reduceIte]
    split_ifs with hkept
    · simp only [correctedArray_twice hnamed, true_iff]
      tauto
    · simp only [not_or] at hkept
      simp only [hkept, Bool.false_eq_true, Bool.true_eq_false, false_or]
      exact bodyDefault_after_upper hnamed
  | bodyDefault =>
    obtain ⟨hgenital, hslot, hupper⟩ := branch_bodyDefault hbranch
    rw [hbranch] at harray
    subst harray
    rw [branch_after_bodyDefault hnamed hgenital hslot hupper]
    simp only [VerdictSettles, hgenital, hslot, hupper, true_imp_iff, Bool.false_eq_true, ↓reduceIte]
    split_ifs with hkept
    · simp only [hkept, Bool.true_eq_false, false_or]
      exact upper_after_bodyDefault hnamed
    · simp only [correctedArray_twice hnamed, true_iff]
      exact Or.inl (by simpa using hkept)
  | pelvisConcealing =>
    obtain ⟨hgenital, hslot, -⟩ := branch_pelvisConcealing hbranch
    rw [hbranch] at harray
    subst harray
    simp only [verdictSettles_of_no_body hslot, iff_true]
    have hgenital' := (isSosTngGenitalArmor_corrected hnamed .pelvisConcealing).trans hgenital
    rcases correctionBranch_pelvis _ hgenital' hslot with hagain | hagain
    · rw [hagain]
      exact correctedArray_twice hnamed .pelvisConcealing armor.keywords
    · rw [hagain]
      rfl
  | unrecognized =>
    have hslot := branch_unrecognized hbranch
    rw [hbranch] at harray
    subst harray
    simp [verdictSettles_of_no_body hslot, correctedArray, hbranch]

theorem pass_idempotent_registered_iff {formArray : FormArray} {armors : ArmorRef → TESObjectARMO}
    (hnamed : LookupsNamed game) (hnodup : ∀ r, (armors r).keywords.Nodup) :
    (∀ r, (applyRuntimeArmorCorrections game (some formArray)
          (applyRuntimeArmorCorrections game (some formArray) armors) r).keywords =
        (applyRuntimeArmorCorrections game (some formArray) armors r).keywords) ↔
      ∀ r, some r ∈ formArray.refs → VerdictSettles game (armors r) := by
  apply forall_congr'
  intro r
  by_cases hr : some r ∈ formArray.refs
  · have hfirst := @applyRuntimeArmorCorrections_registered game _ _ hr _ (hnodup r)
    have hnodup' : (applyRuntimeArmorCorrections game (some formArray) armors r).keywords.Nodup := by
      rw [hfirst]
      exact nodup_correctedArray _ _ (hnodup r)
    rw [applyRuntimeArmorCorrections_registered hr hnodup', hfirst]
    simp only [hr, true_imp_iff, withKeywords_withKeywords, withKeywords_keywords]
    exact correctedArray_settles_iff hnamed rfl
  · simp [applyRuntimeArmorCorrections_apply, hr]

/-- Running the pass again changes no keyword array exactly when every registered
armor's verdict settles. -/
theorem pass_idempotent_iff {dataHandler : Option FormArray} {armors : ArmorRef → TESObjectARMO}
    (hnamed : LookupsNamed game) (hnodup : ∀ r, (armors r).keywords.Nodup) :
    (∀ r, (applyRuntimeArmorCorrections game dataHandler
          (applyRuntimeArmorCorrections game dataHandler armors) r).keywords =
        (applyRuntimeArmorCorrections game dataHandler armors r).keywords) ↔
      ∀ formArray ∈ dataHandler, ∀ r, some r ∈ formArray.refs →
        VerdictSettles game (armors r) := by
  cases dataHandler with
  | none => simp [applyRuntimeArmorCorrections]
  | some formArray => simpa using pass_idempotent_registered_iff hnamed hnodup

end Settling

/-- A bikini top is settled by one pass. -/
theorem pass_idempotent_iff_top :
    (applyRuntimeArmorCorrections taggedGame (some ⟨[some 0], by decide⟩)
      (applyRuntimeArmorCorrections taggedGame (some ⟨[some 0], by decide⟩)
        (fun _ => tagged (plainArmor 1 "Bikini Top" bodySlotMask) [kSosConcealing])) 0).keywords =
    (applyRuntimeArmorCorrections taggedGame (some ⟨[some 0], by decide⟩)
      (fun _ => tagged (plainArmor 1 "Bikini Top" bodySlotMask) [kSosConcealing]) 0).keywords := by
  apply (pass_idempotent_iff taggedGame_named fun _ => by decide).mpr
  intro _ _ r _ _ _
  have hupper : isLikelyUpperOnlyBodyArmor taggedGame
      (tagged (plainArmor 1 "Bikini Top" bodySlotMask) [kSosConcealing]) = true := by decide
  rw [if_pos hupper]
  exact Or.inl (by decide)

/-- Two keywords of other plugins whose words form the explicit term "dress top" around
SOS_Revealing. -/
def splitTermKeywords : List (Option BGSKeyword) :=
  [some ⟨0x11, some (stringView "Dress")⟩, taggedGame.lookupKeyword kSosRevealing,
    some ⟨0x12, some (stringView "Top")⟩]

/-- The first pass takes SOS_Revealing off this armor and the second puts it back. -/
theorem split_term_not_idempotent :
    ¬ ∀ (game : GameData) (formArray : FormArray) (armors : ArmorRef → TESObjectARMO),
      LookupsNamed game → (∀ r, (armors r).keywords.Nodup) →
      ∀ r, (applyRuntimeArmorCorrections game (some formArray)
            (applyRuntimeArmorCorrections game (some formArray) armors) r).keywords =
          (applyRuntimeArmorCorrections game (some formArray) armors r).keywords := by
  intro h
  have htwice := h taggedGame ⟨[some 0], by decide⟩
    (fun _ => withKeywords (plainArmor 1 "Mail" bodySlotMask) splitTermKeywords) taggedGame_named
    (fun _ => by decide) 0
  revert htwice
  decide

end FittingSchlongs.Keywords
