import FittingSchlongs.Keywords.Pass

/-! # The keywords the pass manages

Eight editor IDs are looked up once per pass. What the classifiers read of an
array afterwards is decided by the editor IDs the array had before and by which of
the eight lookups were answered.
-/

namespace FittingSchlongs.Keywords
open Armor Text Foundation.ListUpdates

def concealingEditorIDs : List Bytes := [kSosConcealing, kSosUnderwear, kTngCovering, kTngUnderwear]

def revealingEditorIDs : List Bytes :=
  [kSosRevealing, kTngRevealing, kTngRevealingOnlyWomen, kTngRevealingOnlyMen]

def addedRevealingEditorIDs : List Bytes := [kSosRevealing, kTngRevealing]

def managedEditorIDs : List Bytes := revealingEditorIDs ++ concealingEditorIDs

theorem concealing_subset_managed : concealingEditorIDs ⊆ managedEditorIDs :=
  List.subset_append_right _ _

theorem revealing_subset_managed : revealingEditorIDs ⊆ managedEditorIDs :=
  List.subset_append_left _ _

theorem addedRevealing_subset_managed : addedRevealingEditorIDs ⊆ managedEditorIDs := by
  apply List.Subset.trans _ revealing_subset_managed
  exact List.subset_append_left _ [kTngRevealingOnlyWomen, kTngRevealingOnlyMen]

theorem editorIDs_nodup : ([] :: kSosGenitals :: managedEditorIDs).Nodup := by decide

theorem genitals_ne_nil : kSosGenitals ≠ [] := by
  have h := (List.nodup_cons.mp editorIDs_nodup).1
  exact fun heq => h (heq ▸ List.mem_cons_self)

theorem ne_nil_of_managed {name : Bytes} (h : name ∈ managedEditorIDs) : name ≠ [] := by
  rintro rfl
  exact (List.nodup_cons.mp editorIDs_nodup).1 (List.mem_cons_of_mem _ h)

theorem genitals_not_managed : kSosGenitals ∉ managedEditorIDs :=
  (List.nodup_cons.mp editorIDs_nodup.of_cons).1

theorem revealing_disjoint_concealing : revealingEditorIDs.Disjoint concealingEditorIDs :=
  List.disjoint_of_nodup_append editorIDs_nodup.of_cons.of_cons

theorem added_disjoint_gendered :
    addedRevealingEditorIDs.Disjoint [kTngRevealingOnlyWomen, kTngRevealingOnlyMen] :=
  List.disjoint_of_nodup_append editorIDs_nodup.of_cons.of_cons.of_append_left

/-- `LookupByEditorID` answers with a keyword of the editor ID asked for. -/
def LookupsNamed (game : GameData) : Prop :=
  ∀ name ∈ managedEditorIDs, ∀ keyword ∈ game.lookupKeyword name,
    getEditorID game (some keyword) = name

instance (game : GameData) : Decidable (LookupsNamed game) :=
  inferInstanceAs (Decidable (∀ name ∈ managedEditorIDs, _))

/-- A resolved runtime keyword is the only one with its editor ID on the armor. -/
def LookupsUnique (game : GameData) (armor : TESObjectARMO) : Prop :=
  ∀ name ∈ managedEditorIDs, ∀ keyword ∈ game.lookupKeyword name, ∀ entry ∈ armor.keywords,
    getEditorID game entry = name → entry = some keyword

instance (game : GameData) (armor : TESObjectARMO) : Decidable (LookupsUnique game armor) :=
  inferInstanceAs (Decidable (∀ name ∈ managedEditorIDs, _))

/-- `LookupByEditorID` finds a managed keyword that the armor carries. -/
def LookupsComplete (game : GameData) (armor : TESObjectARMO) : Prop :=
  ∀ name ∈ managedEditorIDs, hasKeywordEditorID game armor name = true →
    (game.lookupKeyword name).isSome = true

instance (game : GameData) (armor : TESObjectARMO) : Decidable (LookupsComplete game armor) :=
  inferInstanceAs (Decidable (∀ name ∈ managedEditorIDs, _))

variable {game : GameData} {armor : TESObjectARMO}

theorem lookupRuntimeKeywords_concealing :
    (lookupRuntimeKeywords game).concealing = concealingEditorIDs.map game.lookupKeyword := rfl

theorem lookupRuntimeKeywords_revealing :
    (lookupRuntimeKeywords game).revealing = revealingEditorIDs.map game.lookupKeyword := rfl

theorem lookupRuntimeKeywords_addedRevealing :
    (lookupRuntimeKeywords game).addedRevealing = addedRevealingEditorIDs.map game.lookupKeyword :=
  rfl

/-! ## Editor IDs of a rewritten array -/

section Arrays

variable {names : List Bytes} {array : List (Option BGSKeyword)}

theorem hasKeyword_withKeywords {name : Bytes} (hne : name ≠ []) :
    hasKeywordEditorID game (withKeywords armor array) name = true ↔
      ∃ keyword, some keyword ∈ array ∧ getEditorID game (some keyword) = name :=
  hasKeywordEditorID_iff game hne

theorem hasKeyword_without (hnamed : LookupsNamed game) (hunique : LookupsUnique game armor)
    (hsub : names ⊆ managedEditorIDs) {name : Bytes} (hne : name ≠ []) :
    hasKeywordEditorID game
        (withKeywords armor (without (names.map game.lookupKeyword) armor.keywords)) name = true ↔
      hasKeywordEditorID game armor name = true ∧
        (name ∈ names → game.lookupKeyword name = none) := by
  rw [hasKeyword_withKeywords hne, hasKeywordEditorID_iff game hne]
  constructor
  · rintro ⟨keyword, hmem, hid⟩
    rw [mem_without, List.mem_map] at hmem
    refine ⟨⟨keyword, hmem.1, hid⟩, fun hname => ?_⟩
    by_contra hsome
    obtain ⟨found, hfound⟩ := Option.ne_none_iff_exists'.mp hsome
    have heq := hunique name (hsub hname) found hfound _ hmem.1 hid
    exact hmem.2 ⟨name, hname, hfound.trans heq.symm⟩
  · rintro ⟨⟨keyword, hmem, hid⟩, hnone⟩
    refine ⟨keyword, mem_without.mpr ⟨hmem, fun herased => ?_⟩, hid⟩
    obtain ⟨other, hother, hlookup⟩ := List.mem_map.mp herased
    have hsame : other = name := (hnamed other (hsub hother) keyword hlookup).symm.trans hid
    subst hsame
    rw [hnone hother] at hlookup
    exact Option.some_ne_none _ hlookup.symm

theorem hasKeyword_foldl_appendEntry (hnamed : LookupsNamed game) (hsub : names ⊆ managedEditorIDs)
    {name : Bytes} (hne : name ≠ []) :
    hasKeywordEditorID game
        (withKeywords armor ((names.map game.lookupKeyword).foldl appendEntry array)) name = true ↔
      hasKeywordEditorID game (withKeywords armor array) name = true ∨
        (name ∈ names ∧ (game.lookupKeyword name).isSome = true) := by
  simp only [hasKeyword_withKeywords hne, mem_foldl_appendEntry, or_and_right, exists_or]
  apply or_congr_right
  constructor
  · rintro ⟨keyword, hmem, hid⟩
    obtain ⟨other, hother, hlookup⟩ := List.mem_map.mp hmem
    have hsame : other = name := (hnamed other (hsub hother) keyword hlookup).symm.trans hid
    subst hsame
    exact ⟨hother, by rw [hlookup]; rfl⟩
  · rintro ⟨hname, hsome⟩
    obtain ⟨keyword, hlookup⟩ := Option.isSome_iff_exists.mp hsome
    exact ⟨keyword, List.mem_map.mpr ⟨name, hname, hlookup⟩, hnamed name (hsub hname) keyword hlookup⟩

end Arrays

/-! ## What a branch drops and adds -/

def removedEditorIDs : CorrectionBranch → List Bytes
  | .genital => []
  | .upperRevealing => concealingEditorIDs
  | .bodyDefault => revealingEditorIDs
  | .pelvisConcealing => revealingEditorIDs
  | .unrecognized => []

/-- The editor IDs whose keywords the branch then adds. -/
def addedEditorIDs : CorrectionBranch → List Bytes
  | .genital => []
  | .upperRevealing => addedRevealingEditorIDs
  | .bodyDefault => []
  | .pelvisConcealing => concealingEditorIDs
  | .unrecognized => []

section Branches

variable (branch : CorrectionBranch) (array : List (Option BGSKeyword))

theorem removed_subset_managed : removedEditorIDs branch ⊆ managedEditorIDs := by
  cases branch with
  | genital => exact List.nil_subset _
  | upperRevealing => exact concealing_subset_managed
  | bodyDefault => exact revealing_subset_managed
  | pelvisConcealing => exact revealing_subset_managed
  | unrecognized => exact List.nil_subset _

theorem added_subset_managed : addedEditorIDs branch ⊆ managedEditorIDs := by
  cases branch with
  | genital => exact List.nil_subset _
  | upperRevealing => exact addedRevealing_subset_managed
  | bodyDefault => exact List.nil_subset _
  | pelvisConcealing => exact concealing_subset_managed
  | unrecognized => exact List.nil_subset _

theorem added_not_removed : ∀ name ∈ addedEditorIDs branch, name ∉ removedEditorIDs branch := by
  cases branch <;> decide

theorem correctedArray_eq :
    correctedArray (lookupRuntimeKeywords game) branch array =
      ((addedEditorIDs branch).map game.lookupKeyword).foldl appendEntry
        (without ((removedEditorIDs branch).map game.lookupKeyword) array) := by
  have hnothing : array = without [] array :=
    (without_eq_self fun _ hmem => absurd hmem List.not_mem_nil).symm
  cases branch with
  | genital => exact hnothing
  | upperRevealing => rfl
  | bodyDefault => rfl
  | pelvisConcealing => rfl
  | unrecognized => exact hnothing

theorem mem_correctedArray_iff {keyword : BGSKeyword} :
    some keyword ∈ correctedArray (lookupRuntimeKeywords game) branch array ↔
      (some keyword ∈ array ∧ some keyword ∉ (removedEditorIDs branch).map game.lookupKeyword) ∨
        some keyword ∈ (addedEditorIDs branch).map game.lookupKeyword := by
  rw [correctedArray_eq, mem_foldl_appendEntry, mem_without]

variable {branch}

/-- The managed keywords of an armor after a rewrite. -/
theorem hasKeyword_corrected_iff (hnamed : LookupsNamed game) (hunique : LookupsUnique game armor)
    {name : Bytes} (hname : name ∈ managedEditorIDs) :
    hasKeywordEditorID game (withKeywords armor
        (correctedArray (lookupRuntimeKeywords game) branch armor.keywords)) name = true ↔
      (hasKeywordEditorID game armor name = true ∧
        (name ∈ removedEditorIDs branch → game.lookupKeyword name = none)) ∨
      (name ∈ addedEditorIDs branch ∧ (game.lookupKeyword name).isSome = true) := by
  have hne := ne_nil_of_managed hname
  rw [correctedArray_eq, hasKeyword_foldl_appendEntry hnamed (added_subset_managed branch) hne,
    hasKeyword_without hnamed hunique (removed_subset_managed branch) hne]

theorem hasRemovedKeyword_corrected (hnamed : LookupsNamed game) (hunique : LookupsUnique game armor)
    (hcomplete : LookupsComplete game armor) {name : Bytes} (hname : name ∈ removedEditorIDs branch) :
    hasKeywordEditorID game (withKeywords armor
      (correctedArray (lookupRuntimeKeywords game) branch armor.keywords)) name = false := by
  have hmanaged := removed_subset_managed branch hname
  rw [← Bool.not_eq_true, hasKeyword_corrected_iff hnamed hunique hmanaged, not_or]
  apply And.intro
  · intro h
    have hsome := hcomplete name hmanaged h.1
    rw [h.2 hname] at hsome
    exact Bool.false_ne_true hsome
  · exact fun h => added_not_removed branch name h.1 hname

end Branches

/-! ## What no rewrite changes -/

theorem isSosTngGenitalArmor_withKeywords {array : List (Option BGSKeyword)}
    (h : hasKeywordEditorID game (withKeywords armor array) kSosGenitals =
      hasKeywordEditorID game armor kSosGenitals) :
    isSosTngGenitalArmor game (withKeywords armor array) = isSosTngGenitalArmor game armor := by
  simp only [isSosTngGenitalArmor]
  rw [h]
  rfl

theorem getArmorDisplaySlotMask_withKeywords (array : List (Option BGSKeyword)) :
    getArmorDisplaySlotMask (withKeywords armor array) = getArmorDisplaySlotMask armor := rfl

theorem lookup_mem_managed (hnamed : LookupsNamed game) {names : List Bytes}
    (hsub : names ⊆ managedEditorIDs) {keyword : BGSKeyword}
    (hmem : some keyword ∈ names.map game.lookupKeyword) :
    getEditorID game (some keyword) ∈ managedEditorIDs := by
  obtain ⟨name, hname, hlookup⟩ := List.mem_map.mp hmem
  rw [hnamed name (hsub hname) keyword hlookup]
  exact hsub hname

theorem mem_correctedArray (hnamed : LookupsNamed game) {keyword : BGSKeyword}
    (hid : getEditorID game (some keyword) ∉ managedEditorIDs) (branch : CorrectionBranch)
    (array : List (Option BGSKeyword)) :
    some keyword ∈ correctedArray (lookupRuntimeKeywords game) branch array ↔
      some keyword ∈ array := by
  have hremoved : some keyword ∉ (removedEditorIDs branch).map game.lookupKeyword := fun h =>
    hid (lookup_mem_managed hnamed (removed_subset_managed branch) h)
  have hadded : some keyword ∉ (addedEditorIDs branch).map game.lookupKeyword := fun h =>
    hid (lookup_mem_managed hnamed (added_subset_managed branch) h)
  rw [mem_correctedArray_iff]
  simp only [hremoved, hadded, not_false_eq_true, and_true, or_false]

theorem isSosTngGenitalArmor_corrected (hnamed : LookupsNamed game) (branch : CorrectionBranch) :
    isSosTngGenitalArmor game (withKeywords armor
        (correctedArray (lookupRuntimeKeywords game) branch armor.keywords)) =
      isSosTngGenitalArmor game armor := by
  apply isSosTngGenitalArmor_withKeywords
  have hne := genitals_ne_nil
  rw [Bool.eq_iff_iff, hasKeyword_withKeywords hne, hasKeywordEditorID_iff game hne]
  apply exists_congr
  intro keyword
  apply and_congr_left
  intro hid
  apply mem_correctedArray hnamed
  rw [hid]
  exact genitals_not_managed

/-! ## What each branch was chosen for -/

theorem branch_genital (h : correctionBranch game armor = .genital) :
    isSosTngGenitalArmor game armor = true := by
  simp only [correctionBranch] at h
  split_ifs at h with hgenital
  exact hgenital

theorem branch_upperRevealing (h : correctionBranch game armor = .upperRevealing) :
    isSosTngGenitalArmor game armor = false ∧
      hasSlot (getArmorDisplaySlotMask armor) bodySlotMask = true ∧
      isLikelyUpperOnlyBodyArmor game armor = true := by
  simp only [correctionBranch] at h
  split_ifs at h with hgenital hupper
  exact ⟨by simpa using hgenital, hasSlot_of_upperOnly game hupper, hupper⟩

theorem branch_bodyDefault (h : correctionBranch game armor = .bodyDefault) :
    isSosTngGenitalArmor game armor = false ∧
      hasSlot (getArmorDisplaySlotMask armor) bodySlotMask = true ∧
      isLikelyUpperOnlyBodyArmor game armor = false := by
  simp only [correctionBranch] at h
  split_ifs at h with hgenital hupper hslot
  exact ⟨by simpa using hgenital, hslot, by simpa using hupper⟩

theorem branch_pelvisConcealing (h : correctionBranch game armor = .pelvisConcealing) :
    isSosTngGenitalArmor game armor = false ∧
      hasSlot (getArmorDisplaySlotMask armor) bodySlotMask = false ∧
      hasSlot (getArmorDisplaySlotMask armor) pelvisPrimarySlotMask = true := by
  simp only [correctionBranch] at h
  split_ifs at h with hgenital _ hbody hpelvis
  refine ⟨by simpa using hgenital, by simpa using hbody, ?_⟩
  simp only [isLikelyGenitalConcealingPelvisArmor] at hpelvis
  split_ifs at hpelvis with hslot
  · simpa using hslot
  · simpa using hslot

theorem pelvis_of_branch (h : correctionBranch game armor = .pelvisConcealing) :
    isLikelyGenitalConcealingPelvisArmor game armor = true := by
  simp only [correctionBranch] at h
  split_ifs at h with _ _ _ hpelvis
  exact hpelvis

theorem branch_unrecognized (h : correctionBranch game armor = .unrecognized) :
    hasSlot (getArmorDisplaySlotMask armor) bodySlotMask = false := by
  simp only [correctionBranch] at h
  split_ifs at h with _ _ hbody
  simpa using hbody

/-! ## The pass on one registered armor -/

theorem correctArmor_of_unresolved {keywords : RuntimeKeywords} (h : keywords.hasAny = false)
    (armor : TESObjectARMO) : correctArmor game keywords armor = armor := by
  simp only [RuntimeKeywords.hasAny, Bool.or_eq_false_iff, Option.isSome_eq_false_iff,
    Option.isNone_iff_eq_none] at h
  obtain ⟨⟨⟨⟨⟨⟨⟨h1, h2⟩, h3⟩, h4⟩, h5⟩, h6⟩, h7⟩, h8⟩ := h
  simp only [correctArmor]
  cases correctionBranch game armor <;>
    simp [applyRevealingKeywordOverride, removeRevealingKeywordConflicts,
      applyConcealingKeywordOverride, addKeywordIfPresent, removeKeywordIfPresent, h1, h2, h3, h4,
      h5, h6, h7, h8]

/-- The pass applies the loop body to each registered armor and to no other. -/
theorem applyRuntimeArmorCorrections_apply (formArray : FormArray)
    (armors : ArmorRef → TESObjectARMO) (r : ArmorRef) :
    applyRuntimeArmorCorrections game (some formArray) armors r =
      if some r ∈ formArray.refs then
        correctArmor game (lookupRuntimeKeywords game) (armors r)
      else armors r := by
  simp only [applyRuntimeArmorCorrections]
  cases hany : (lookupRuntimeKeywords game).hasAny with
  | false => simp [correctArmor_of_unresolved hany]
  | true => simp [rewriteCells_apply _ formArray.nodup_refs]

theorem applyRuntimeArmorCorrections_registered {formArray : FormArray} {r : ArmorRef}
    (hr : some r ∈ formArray.refs) {armors : ArmorRef → TESObjectARMO}
    (hnodup : (armors r).keywords.Nodup) :
    applyRuntimeArmorCorrections game (some formArray) armors r =
      withKeywords (armors r) (correctedArray (lookupRuntimeKeywords game)
        (correctionBranch game (armors r)) (armors r).keywords) := by
  rw [applyRuntimeArmorCorrections_apply, if_pos hr, correctArmor_eq _ _ hnodup]

/-! ## Plain keywords for concrete inputs -/

def managedKeywords : List BGSKeyword :=
  managedEditorIDs.mapIdx (fun i editorID => ⟨BitVec.ofNat 32 (0x801 + i), some editorID⟩)

/-- A game in which SOS and TNG are installed. -/
def taggedGame : GameData :=
  { bareGame with
    lookupKeyword := fun editorID =>
      managedKeywords.find? (fun keyword => keyword.formEditorID == some editorID) }

def tagged (armor : TESObjectARMO) (editorIDs : List Bytes) : TESObjectARMO :=
  withKeywords armor (editorIDs.map taggedGame.lookupKeyword)

theorem taggedGame_named : LookupsNamed taggedGame := by decide

end FittingSchlongs.Keywords
