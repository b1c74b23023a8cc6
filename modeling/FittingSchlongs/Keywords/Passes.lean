import FittingSchlongs.Keywords.Managed

/-! # Any number of passes

Every game load runs the pass again on the armors the earlier ones left. A pass keeps
the keywords it does not manage, and a managed keyword comes up only where the branch
adds it, so what an armor can gain is decided by its slots.
-/

namespace FittingSchlongs.Keywords
open Armor Text Foundation.ListUpdates

/-- The passes in order. The form array may differ from one to the next. -/
def runPasses (game : GameData) (passes : List (Option FormArray))
    (armors : ArmorRef → TESObjectARMO) : ArmorRef → TESObjectARMO :=
  passes.foldl (fun armors dataHandler => applyRuntimeArmorCorrections game dataHandler armors) armors

/-- The pass finds the armor in its form array. -/
def Registered (r : ArmorRef) (dataHandler : Option FormArray) : Prop :=
  ∃ formArray ∈ dataHandler, some r ∈ formArray.refs

variable {game : GameData} {r : ArmorRef} {armors : ArmorRef → TESObjectARMO}

/-! ## One armor through the passes -/

theorem runPasses_cons (dataHandler : Option FormArray) (passes : List (Option FormArray)) :
    runPasses game (dataHandler :: passes) armors =
      runPasses game passes (applyRuntimeArmorCorrections game dataHandler armors) := rfl

theorem runPasses_append (passes further : List (Option FormArray)) :
    runPasses game (passes ++ further) armors = runPasses game further (runPasses game passes armors) :=
  List.foldl_append

theorem pass_registered {dataHandler : Option FormArray} (h : Registered r dataHandler) :
    applyRuntimeArmorCorrections game dataHandler armors r =
      correctArmor game (lookupRuntimeKeywords game) (armors r) := by
  obtain ⟨formArray, hformArray, hr⟩ := h
  rw [Option.mem_def.mp hformArray, applyRuntimeArmorCorrections_apply, if_pos hr]

theorem pass_unregistered {dataHandler : Option FormArray} (h : ¬Registered r dataHandler) :
    applyRuntimeArmorCorrections game dataHandler armors r = armors r := by
  cases dataHandler with
  | none => rfl
  | some formArray =>
    have hr : some r ∉ formArray.refs := fun hmem => h ⟨formArray, rfl, hmem⟩
    rw [applyRuntimeArmorCorrections_apply, if_neg hr]

theorem runPasses_concat (passes : List (Option FormArray)) {dataHandler : Option FormArray}
    (h : Registered r dataHandler) :
    runPasses game (passes ++ [dataHandler]) armors r =
      correctArmor game (lookupRuntimeKeywords game) (runPasses game passes armors r) := by
  rw [runPasses_append]
  exact pass_registered h

/-- What the loop body preserves, the passes preserve. -/
theorem runPasses_invariant (inv : TESObjectARMO → Prop)
    (hstep : ∀ armor, inv armor → inv (correctArmor game (lookupRuntimeKeywords game) armor))
    (h : inv (armors r)) (passes : List (Option FormArray)) :
    inv (runPasses game passes armors r) := by
  induction passes generalizing armors with
  | nil => exact h
  | cons dataHandler passes ih =>
    rw [runPasses_cons]
    apply ih
    by_cases hr : Registered r dataHandler
    · rw [pass_registered hr]
      exact hstep _ h
    · rwa [pass_unregistered hr]

theorem runPasses_congr {passes passes' : List (Option FormArray)}
    (hpasses : passes.Forall₂ (fun dh dh' => Registered r dh ↔ Registered r dh') passes')
    {armors' : ArmorRef → TESObjectARMO} (h : armors' r = armors r) :
    runPasses game passes' armors' r = runPasses game passes armors r := by
  induction hpasses generalizing armors armors' with
  | nil => exact h
  | @cons dataHandler dataHandler' _ _ hsame _ ih =>
    rw [runPasses_cons, runPasses_cons]
    apply ih
    by_cases hr : Registered r dataHandler
    · rw [pass_registered hr, pass_registered (hsame.mp hr), h]
    · rw [pass_unregistered hr, pass_unregistered fun hr' => hr (hsame.mpr hr'), h]

/-! ## Keyword arrays the runtime can look up -/

/-- The array is duplicate-free, and a managed keyword on it is the one its lookup answers. -/
structure Regular (game : GameData) (armor : TESObjectARMO) : Prop where
  nodup : armor.keywords.Nodup
  unique : LookupsUnique game armor
  complete : LookupsComplete game armor

theorem Regular.corrected {armor : TESObjectARMO} (hnamed : LookupsNamed game)
    (h : Regular game armor) (branch : CorrectionBranch) :
    Regular game (withKeywords armor
      (correctedArray (lookupRuntimeKeywords game) branch armor.keywords)) where
  nodup := nodup_correctedArray _ branch h.nodup
  unique := by
    intro name hname keyword hkeyword entry hentry hid
    cases entry with
    | none => exact absurd hid.symm (ne_nil_of_managed hname)
    | some carried =>
      rcases (mem_correctedArray_iff branch armor.keywords).mp hentry with hkept | hadded
      · exact h.unique name hname keyword hkeyword _ hkept.1 hid
      · obtain ⟨other, hother, hlookup⟩ := List.mem_map.mp hadded
        have hsame : other = name :=
          (hnamed other (added_subset_managed branch hother) carried hlookup).symm.trans hid
        rw [← hlookup, hsame]
        exact hkeyword
  complete := by
    intro name hname hcarried
    rcases (hasKeyword_corrected_iff hnamed h.unique hname).mp hcarried with hkept | hadded
    · exact h.complete name hname hkept.1
    · exact hadded.2

/-! ## What the passes keep -/

def genderedEditorIDs : List Bytes := [kTngRevealingOnlyWomen, kTngRevealingOnlyMen]

theorem gendered_subset_revealing : genderedEditorIDs ⊆ revealingEditorIDs :=
  List.subset_append_right addedRevealingEditorIDs _

/-- The entries the pass does not manage. -/
def unmanagedKeywords (game : GameData) (armor : TESObjectARMO) : List (Option BGSKeyword) :=
  armor.keywords.filter (fun entry => getEditorID game entry ∉ managedEditorIDs)

/-- What `after` keeps of `before`. -/
structure Frame (game : GameData) (before after : TESObjectARMO) : Prop where
  form : withKeywords after before.keywords = before
  unmanaged : unmanagedKeywords game after = unmanagedKeywords game before
  concealing : hasSlot (getArmorDisplaySlotMask before) bodySlotMask = true →
    ∀ name ∈ concealingEditorIDs,
      hasKeywordEditorID game after name = true → hasKeywordEditorID game before name = true
  gendered : ∀ name ∈ genderedEditorIDs,
    hasKeywordEditorID game after name = true → hasKeywordEditorID game before name = true

theorem Frame.slots {before after : TESObjectARMO} (h : Frame game before after) :
    getArmorDisplaySlotMask after = getArmorDisplaySlotMask before := by
  rw [← h.form]
  rfl

theorem Frame.refl (armor : TESObjectARMO) : Frame game armor armor :=
  ⟨rfl, rfl, fun _ _ _ h => h, fun _ _ h => h⟩

theorem Frame.trans {a b c : TESObjectARMO} (hab : Frame game a b) (hbc : Frame game b c) :
    Frame game a c where
  form :=
    calc withKeywords c a.keywords
      _ = withKeywords (withKeywords c b.keywords) a.keywords := rfl
      _ = withKeywords b a.keywords := by rw [hbc.form]
      _ = a := hab.form
  unmanaged := hbc.unmanaged.trans hab.unmanaged
  concealing hslot name hname h :=
    hab.concealing hslot name hname (hbc.concealing (by rwa [hab.slots]) name hname h)
  gendered name hname h := hab.gendered name hname (hbc.gendered name hname h)

theorem unmanagedKeywords_corrected {armor : TESObjectARMO} (hnamed : LookupsNamed game)
    (branch : CorrectionBranch) :
    unmanagedKeywords game (withKeywords armor
        (correctedArray (lookupRuntimeKeywords game) branch armor.keywords)) =
      unmanagedKeywords game armor := by
  simp only [unmanagedKeywords, withKeywords_keywords]
  obtain ⟨added, heq, hadded⟩ := foldl_appendEntry_eq
    (without ((removedEditorIDs branch).map game.lookupKeyword) armor.keywords)
    ((addedEditorIDs branch).map game.lookupKeyword)
  have hnone : added.filter (fun entry => getEditorID game entry ∉ managedEditorIDs) = [] := by
    rw [List.filter_eq_nil_iff]
    intro entry hentry
    obtain ⟨keyword, rfl⟩ := Option.isSome_iff_exists.mp (hadded entry hentry).2
    have hid := lookup_mem_managed hnamed (added_subset_managed branch) (hadded _ hentry).1
    simp [hid]
  rw [correctedArray_eq, heq, List.filter_append, hnone, List.append_nil, without,
    List.filter_filter]
  apply List.filter_congr
  intro entry _
  by_cases hid : getEditorID game entry ∈ managedEditorIDs
  · simp [hid]
  · cases entry with
    | none => simp [hid]
    | some keyword =>
      have hkept : some keyword ∉ (removedEditorIDs branch).map game.lookupKeyword := fun hdropped =>
        hid (lookup_mem_managed hnamed (removed_subset_managed branch) hdropped)
      simpa [hid] using hkept

theorem hasKeyword_of_corrected {armor : TESObjectARMO} {branch : CorrectionBranch}
    (hnamed : LookupsNamed game) (hunique : LookupsUnique game armor) {name : Bytes}
    (hname : name ∈ managedEditorIDs) (hadded : name ∉ addedEditorIDs branch)
    (h : hasKeywordEditorID game (withKeywords armor
      (correctedArray (lookupRuntimeKeywords game) branch armor.keywords)) name = true) :
    hasKeywordEditorID game armor name = true := by
  rcases (hasKeyword_corrected_iff hnamed hunique hname).mp h with hkept | hnew
  · exact hkept.1
  · exact absurd hnew.1 hadded

theorem frame_correctArmor {armor : TESObjectARMO} (hnamed : LookupsNamed game)
    (h : Regular game armor) :
    Frame game armor (correctArmor game (lookupRuntimeKeywords game) armor) := by
  rw [correctArmor_eq _ _ h.nodup]
  constructor
  case form => rfl
  case unmanaged => exact unmanagedKeywords_corrected hnamed _
  case concealing =>
    intro hslot name hname
    apply hasKeyword_of_corrected hnamed h.unique (concealing_subset_managed hname)
    have hrevealing : name ∉ revealingEditorIDs := fun hmem =>
      revealing_disjoint_concealing hmem hname
    cases hbranch : correctionBranch game armor with
    | genital => exact List.not_mem_nil
    | upperRevealing => exact fun hmem => hrevealing (List.mem_append_left _ hmem)
    | bodyDefault => exact List.not_mem_nil
    | pelvisConcealing =>
      -- The concealing rewrite needs an armor without the body slot.
      rw [(branch_pelvisConcealing hbranch).2.1] at hslot
      exact absurd hslot Bool.false_ne_true
    | unrecognized => exact List.not_mem_nil
  case gendered =>
    intro name hname
    have hrevealing := gendered_subset_revealing hname
    apply hasKeyword_of_corrected hnamed h.unique (revealing_subset_managed hrevealing)
    cases correctionBranch game armor with
    | genital => exact List.not_mem_nil
    | upperRevealing => exact fun hmem => added_disjoint_gendered hmem hname
    | bodyDefault => exact List.not_mem_nil
    | pelvisConcealing => exact fun hmem => revealing_disjoint_concealing hrevealing hmem
    | unrecognized => exact List.not_mem_nil

theorem frame_runPasses (hnamed : LookupsNamed game) (h : Regular game (armors r))
    (passes : List (Option FormArray)) :
    Regular game (runPasses game passes armors r) ∧
      Frame game (armors r) (runPasses game passes armors r) := by
  apply runPasses_invariant (fun armor => Regular game armor ∧ Frame game (armors r) armor)
  · intro armor hinv
    refine ⟨?_, hinv.2.trans (frame_correctArmor hnamed hinv.1)⟩
    rw [correctArmor_eq _ _ hinv.1.nodup]
    exact hinv.1.corrected hnamed _
  · exact ⟨h, .refl _⟩

theorem correctArmor_untouched {armor : TESObjectARMO} (keywords : RuntimeKeywords)
    (h : isSosTngGenitalArmor game armor = true ∨
      hasSlot (getArmorDisplaySlotMask armor) bodySlotMask = false ∧
        isLikelyGenitalConcealingPelvisArmor game armor = false) :
    correctArmor game keywords armor = armor := by
  by_cases hgenital : isSosTngGenitalArmor game armor = true
  · simp [correctArmor, correctionBranch, hgenital]
  · obtain ⟨hbody, hpelvis⟩ := h.resolve_left hgenital
    have hupper : isLikelyUpperOnlyBodyArmor game armor = false := by
      simp [isLikelyUpperOnlyBodyArmor, hbody]
    simp [correctArmor, correctionBranch, hgenital, hupper, hbody, hpelvis]

/-- A branch that acts drops the keywords the added ones would contradict. -/
theorem exclusive_corrected {armor : TESObjectARMO} {branch : CorrectionBranch}
    (hnamed : LookupsNamed game) (h : Regular game armor) (hgenital : branch ≠ .genital)
    (hrecognized : branch ≠ .unrecognized) :
    let after := withKeywords armor
      (correctedArray (lookupRuntimeKeywords game) branch armor.keywords)
    (∀ name ∈ addedRevealingEditorIDs, hasKeywordEditorID game after name = false) ∨
      ∀ name ∈ concealingEditorIDs, hasKeywordEditorID game after name = false := by
  intro after
  have hgone : ∀ name ∈ removedEditorIDs branch, hasKeywordEditorID game after name = false :=
    fun name hname => hasRemovedKeyword_corrected hnamed h.unique h.complete hname
  have hadded : addedRevealingEditorIDs ⊆ revealingEditorIDs := List.subset_append_left _ genderedEditorIDs
  cases branch with
  | genital => exact absurd rfl hgenital
  | upperRevealing => exact Or.inr hgone
  | bodyDefault => exact Or.inl fun name hname => hgone name (hadded hname)
  | pelvisConcealing => exact Or.inl fun name hname => hgone name (hadded hname)
  | unrecognized => exact absurd rfl hrecognized

/-- The passes keep every keyword they do not manage, put no concealing keyword on body armor
and no gendered one on any, leave no acted-on armor marked both ways, and treat each armor
apart from the others. -/
theorem passes_frame_exclusive (hnamed : LookupsNamed game) (h : Regular game (armors r))
    (passes : List (Option FormArray)) :
    (isSosTngGenitalArmor game (armors r) = true ∨
        hasSlot (getArmorDisplaySlotMask (armors r)) bodySlotMask = false ∧
          isLikelyGenitalConcealingPelvisArmor game (armors r) = false →
      (runPasses game passes armors r).keywords = (armors r).keywords) ∧
    unmanagedKeywords game (runPasses game passes armors r) = unmanagedKeywords game (armors r) ∧
    (∀ further, hasSlot (getArmorDisplaySlotMask (armors r)) bodySlotMask = true →
      ∀ name ∈ concealingEditorIDs,
        hasKeywordEditorID game (runPasses game (passes ++ further) armors r) name = true →
        hasKeywordEditorID game (runPasses game passes armors r) name = true) ∧
    (∀ further, ∀ name ∈ genderedEditorIDs,
      hasKeywordEditorID game (runPasses game (passes ++ further) armors r) name = true →
      hasKeywordEditorID game (runPasses game passes armors r) name = true) ∧
    (∀ dataHandler, Registered r dataHandler →
      correctionBranch game (runPasses game passes armors r) ≠ .genital →
      correctionBranch game (runPasses game passes armors r) ≠ .unrecognized →
      ¬((∃ name ∈ addedRevealingEditorIDs,
          hasKeywordEditorID game (runPasses game (passes ++ [dataHandler]) armors r) name = true) ∧
        ∃ name ∈ concealingEditorIDs,
          hasKeywordEditorID game (runPasses game (passes ++ [dataHandler]) armors r) name = true)) ∧
    (∀ passes' armors', passes.Forall₂ (fun dh dh' => Registered r dh ↔ Registered r dh') passes' →
      armors' r = armors r →
      (runPasses game passes' armors' r).keywords = (runPasses game passes armors r).keywords) := by
  obtain ⟨hregular, hframe⟩ := frame_runPasses hnamed h passes
  have hfurther : ∀ further, Frame game (runPasses game passes armors r)
      (runPasses game (passes ++ further) armors r) := fun further => by
    rw [runPasses_append]
    exact (frame_runPasses hnamed hregular further).2
  refine ⟨?_, hframe.unmanaged, ?_, ?_, ?_, ?_⟩
  · intro huntouched
    have hsame : runPasses game passes armors r = armors r :=
      runPasses_invariant (fun armor => armor = armors r)
        (fun armor heq => by rw [heq, correctArmor_untouched _ huntouched]) rfl passes
    rw [hsame]
  · intro further hslot
    apply (hfurther further).concealing
    rwa [hframe.slots]
  · intro further
    exact (hfurther further).gendered
  · intro dataHandler hr hgenital hrecognized ⟨⟨added, hadded, hrevealing⟩, other, hother, hconcealing⟩
    rw [runPasses_concat passes hr, correctArmor_eq _ _ hregular.nodup] at hrevealing hconcealing
    rcases exclusive_corrected hnamed hregular hgenital hrecognized with hgone | hgone
    · exact absurd ((hgone added hadded).symm.trans hrevealing) Bool.false_ne_true
    · exact absurd ((hgone other hother).symm.trans hconcealing) Bool.false_ne_true
  · intro passes' armors' hpasses hsame
    rw [runPasses_congr hpasses hsame]

/-- Two passes on a bikini top that another plugin had marked as covering. -/
theorem passes_frame_exclusive_top :
    let light : Option BGSKeyword := some ⟨0x11, some (stringView "ArmorLight")⟩
    unmanagedKeywords taggedGame (runPasses taggedGame
        [some ⟨[some 0], by decide⟩, some ⟨[none, some 0], by decide⟩]
        (fun _ => withKeywords (plainArmor 1 "Bikini Top" bodySlotMask)
          [taggedGame.lookupKeyword kSosConcealing, light]) 0) = [light] :=
  (passes_frame_exclusive taggedGame_named ⟨by decide, by decide, by decide⟩ _).2.1.trans (by decide)

end FittingSchlongs.Keywords
