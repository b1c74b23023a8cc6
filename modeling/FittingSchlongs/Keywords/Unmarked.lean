import FittingSchlongs.Armor.Verdicts
import FittingSchlongs.Correction.Appearance
import FittingSchlongs.Keywords.Convergence
import FittingSchlongs.Keywords.Precedence

/-! # Armor that comes without marks

On an armor with none of the managed keywords and outside the form lists the pass has nothing
to correct. It writes the verdict of the classifiers down for the other mods, and the queries
of the hooks, which read both marks and verdict, answer as before.
-/

namespace FittingSchlongs.Keywords
open Armor Correction Text Foundation.ListUpdates Function

/-- The armor has no managed keyword and is in neither form list. -/
structure Unmarked (game : GameData) (armor : TESObjectARMO) : Prop where
  nodup : armor.keywords.Nodup
  keywords : ∀ name ∈ managedEditorIDs, hasKeywordEditorID game armor name = false
  revealingList : isListed game armor kSosRevealingArmors = false
  concealingList : isListed game armor kSosConcealingArmors = false

variable {game : GameData} {armor : TESObjectARMO}

/-! ## The rewrite of an unmarked armor -/

section Rewrite

variable (hnamed : LookupsNamed game) (h : Unmarked game armor)
include h

theorem Unmarked.not_managed {keyword : BGSKeyword} (hmem : some keyword ∈ armor.keywords) :
    getEditorID game (some keyword) ∉ managedEditorIDs := by
  intro hname
  have hcarried := (hasKeywordEditorID_iff game (ne_nil_of_managed hname)).mpr ⟨keyword, hmem, rfl⟩
  exact Bool.false_ne_true ((h.keywords _ hname).symm.trans hcarried)

theorem Unmarked.unique : LookupsUnique game armor := by
  intro name hname _ _ entry hentry hid
  cases entry with
  | none => exact absurd hid.symm (ne_nil_of_managed hname)
  | some carried => exact absurd (hid ▸ hname) (h.not_managed hentry)

theorem Unmarked.without_eq {names : List Bytes} (hnamed : LookupsNamed game)
    (hsub : names ⊆ managedEditorIDs) :
    without (names.map game.lookupKeyword) armor.keywords = armor.keywords :=
  without_eq_self fun _ hlookup hmem => h.not_managed hmem (lookup_mem_managed hnamed hsub hlookup)

include hnamed

theorem Unmarked.correct_eq :
    correct game armor = withKeywords armor
      (((addedEditorIDs (correctionBranch game armor)).map game.lookupKeyword).foldl appendEntry
        armor.keywords) := by
  rw [Keywords.correct_eq h.nodup, correctedArray_eq,
    h.without_eq hnamed (removed_subset_managed _)]

theorem Unmarked.upperOnly_correct :
    isLikelyUpperOnlyBodyArmor game (correct game armor) =
      isLikelyUpperOnlyBodyArmor game armor := by
  rw [h.correct_eq hnamed, isLikelyUpperOnlyBodyArmor, isLikelyUpperOnlyBodyArmor,
    getArmorDisplaySlotMask_withKeywords,
    isUpperOnlyText_foldl_appendEntry hnamed (added_subset_managed _)]
  rfl

theorem Unmarked.hasKeyword_correct {name : Bytes} (hname : name ∈ managedEditorIDs)
    (hadded : name ∉ addedEditorIDs (correctionBranch game armor)) :
    hasKeywordEditorID game (correct game armor) name = false := by
  rw [Keywords.correct_eq h.nodup, ← Bool.not_eq_true,
    hasKeyword_corrected_iff hnamed h.unique hname]
  rintro (hkept | hnew)
  · exact Bool.false_ne_true ((h.keywords name hname).symm.trans hkept.1)
  · exact hadded hnew.1

theorem Unmarked.settled : IsFixedPt (correct game) (correct game armor) := by
  have hsettles : VerdictSettles game armor := by
    intro _ hslot
    rw [isLikelyUpperOnlyBodyArmor_of_slot game hslot, keywordsWithout, keywordsWithout,
      h.without_eq hnamed concealing_subset_managed, h.without_eq hnamed revealing_subset_managed]
    have htext := @isUpperOnlyText_eq game armor armor.keywords
    rw [withKeywords_self] at htext
    split_ifs with hupper
    · rw [htext, Bool.or_eq_true, Bool.and_eq_true, Bool.not_eq_true'] at hupper
      tauto
    · rw [htext, Bool.not_eq_true, Bool.or_eq_false_iff] at hupper
      exact Or.inl hupper.1
  have hagain : correct game (correct game armor) = _ := Keywords.correct_eq (nodup_correct h.nodup)
  rw [IsFixedPt, hagain, Keywords.correct_eq h.nodup, withKeywords_withKeywords,
    withKeywords_keywords, (correctedArray_settles_iff hnamed rfl).mpr hsettles]

end Rewrite

/-! ## What the readers make of it -/

section Readers

variable {actor : Option Actor}

theorem isGenitalCoveringArmor_eq_false
    (hlisted : isListed game armor kSosConcealingArmors = false)
    (hcovering : ∀ name ∈ coveringEditorIDs, hasKeywordEditorID game armor name = false)
    (hgendered : ∀ name ∈ genderedEditorIDs, hasKeywordEditorID game armor name = false) :
    isGenitalCoveringArmor game actor armor = false := by
  simp only [coveringEditorIDs, genderedEditorIDs, List.forall_mem_cons, List.not_mem_nil,
    false_imp_iff, implies_true, and_true] at hcovering hgendered
  rw [← Bool.not_eq_true, isGenitalCoveringArmor_iff]
  simp [hcovering, hgendered, hlisted]

theorem covering_subset_managed : coveringEditorIDs ⊆ managedEditorIDs := by
  apply List.Subset.trans _ concealing_subset_managed
  exact List.subset_append_left _ [kTngUnderwear]

theorem gendered_subset_managed : genderedEditorIDs ⊆ managedEditorIDs :=
  List.Subset.trans gendered_subset_revealing revealing_subset_managed

theorem Unmarked.covers_nobody (h : Unmarked game armor) :
    isGenitalCoveringArmor game actor armor = false :=
  isGenitalCoveringArmor_eq_false h.concealingList
    (fun _ hname => h.keywords _ (covering_subset_managed hname))
    fun _ hname => h.keywords _ (gendered_subset_managed hname)

theorem Unmarked.reveals_nobody (h : Unmarked game armor) :
    isGenitalRevealingArmor game actor armor = false :=
  isGenitalRevealingArmor_eq_false h.revealingList fun _ hname =>
    h.keywords _ (revealing_subset_managed hname)

variable (hnamed : LookupsNamed game) (h : Unmarked game armor)
include hnamed h

theorem Unmarked.correct_of_nothing
    (hnone : ∀ name ∈ addedEditorIDs (correctionBranch game armor), game.lookupKeyword name = none) :
    correct game armor = armor := by
  rw [h.correct_eq hnamed, foldl_appendEntry_eq_self, withKeywords_self]
  intro keyword hadded
  obtain ⟨name, hname, hlookup⟩ := List.mem_map.mp hadded
  exact absurd (hlookup.symm.trans (hnone name hname)) (Option.some_ne_none keyword)

theorem Unmarked.readers_upper (hbranch : correctionBranch game armor = .upperRevealing) :
    shouldRevealGenitals game actor (correct game armor) = shouldRevealGenitals game actor armor ∧
      shouldConcealGenitals game actor (correct game armor) =
        shouldConcealGenitals game actor armor := by
  obtain ⟨hgenital, hslot, hupper⟩ := branch_upperRevealing hbranch
  obtain ⟨hgenital', hslots⟩ := correct_keeps hnamed h.nodup
  have hadded : ∀ name ∈ coveringEditorIDs ++ genderedEditorIDs,
      name ∉ addedEditorIDs (correctionBranch game armor) := by
    rw [hbranch]
    decide
  have hcovering : isGenitalCoveringArmor game actor (correct game armor) = false := by
    apply isGenitalCoveringArmor_eq_false
    · rw [Keywords.correct_eq h.nodup]
      exact h.concealingList
    · exact fun name hname => h.hasKeyword_correct hnamed (covering_subset_managed hname)
        (hadded name (List.mem_append_left _ hname))
    · exact fun name hname => h.hasKeyword_correct hnamed (gendered_subset_managed hname)
        (hadded name (List.mem_append_right _ hname))
  have hupper' := (h.upperOnly_correct hnamed).trans hupper
  have hrevealed : shouldRevealGenitals game actor (correct game armor) = true := by
    simp [shouldRevealGenitals, hgenital', hgenital, hcovering, hupper']
  have hconcealed : shouldConcealGenitals game actor (correct game armor) = false := by
    simp [shouldConcealGenitals, hasDisplaySlot_eq, hslots, hslot, hupper']
  rw [hrevealed, hconcealed, shouldRevealGenitals_unmarked hgenital h.covers_nobody
    h.reveals_nobody, shouldConcealGenitals_unmarked hgenital h.covers_nobody h.reveals_nobody,
    if_pos hslot, hupper]
  exact ⟨rfl, rfl⟩

theorem Unmarked.readers_pelvis (hbranch : correctionBranch game armor = .pelvisConcealing) :
    shouldRevealGenitals game actor (correct game armor) = shouldRevealGenitals game actor armor ∧
      shouldConcealGenitals game actor (correct game armor) =
        shouldConcealGenitals game actor armor := by
  obtain ⟨hgenital, hbody, hslot⟩ := branch_pelvisConcealing hbranch
  by_cases hresolved : ∃ name ∈ concealingEditorIDs, (game.lookupKeyword name).isSome = true
  · obtain ⟨resolved, hmem, hsome⟩ := hresolved
    obtain ⟨hgenital', hslots⟩ := correct_keeps hnamed h.nodup
    have hpelvis := pelvis_of_branch hbranch
    have hupper : isLikelyUpperOnlyBodyArmor game armor = false := by
      simp [isLikelyUpperOnlyBodyArmor, hbody]
    have hkeyword : hasKeywordEditorID game (correct game armor) resolved = true := by
      rw [Keywords.correct_eq h.nodup, hasKeyword_corrected_iff hnamed h.unique
        (concealing_subset_managed hmem), hbranch]
      exact Or.inr ⟨hmem, hsome⟩
    have hrevealing : isGenitalRevealingArmor game actor (correct game armor) = false := by
      apply isGenitalRevealingArmor_eq_false
      · rw [Keywords.correct_eq h.nodup]
        exact h.revealingList
      · intro name hname
        apply h.hasKeyword_correct hnamed (revealing_subset_managed hname)
        rw [hbranch]
        exact revealing_disjoint_concealing hname
    have hrevealed : shouldRevealGenitals game actor (correct game armor) = false :=
      shouldRevealGenitals_eq_false hrevealing ((h.upperOnly_correct hnamed).trans hupper)
    have hconcealed : shouldConcealGenitals game actor (correct game armor) = true :=
      shouldConcealGenitals_of_marked (hgenital'.trans hgenital) hrevealing (by rwa [hslots])
        (covers_or_pelvis actor hmem hkeyword (by rwa [hslots]))
    rw [hrevealed, hconcealed, shouldRevealGenitals_unmarked hgenital h.covers_nobody
      h.reveals_nobody, shouldConcealGenitals_unmarked hgenital h.covers_nobody h.reveals_nobody,
      hbody, hpelvis, hupper]
    simp
  · have hnone : ∀ name ∈ addedEditorIDs (correctionBranch game armor),
        game.lookupKeyword name = none := by
      rw [hbranch]
      intro name hname
      by_contra hsome
      exact hresolved ⟨name, hname, Option.isSome_iff_ne_none.mpr hsome⟩
    rw [h.correct_of_nothing hnamed hnone]
    exact ⟨rfl, rfl⟩

theorem Unmarked.readers_correct :
    shouldRevealGenitals game actor (correct game armor) = shouldRevealGenitals game actor armor ∧
      shouldConcealGenitals game actor (correct game armor) =
        shouldConcealGenitals game actor armor := by
  -- Three of the branches add nothing.
  have hidle : addedEditorIDs (correctionBranch game armor) = [] →
      shouldRevealGenitals game actor (correct game armor) = shouldRevealGenitals game actor armor ∧
        shouldConcealGenitals game actor (correct game armor) =
          shouldConcealGenitals game actor armor := by
    intro hnil
    rw [h.correct_of_nothing hnamed (by simp [hnil])]
    exact ⟨rfl, rfl⟩
  cases hbranch : correctionBranch game armor with
  | genital => exact hidle (by rw [hbranch]; rfl)
  | upperRevealing => exact h.readers_upper hnamed hbranch
  | bodyDefault => exact hidle (by rw [hbranch]; rfl)
  | pelvisConcealing => exact h.readers_pelvis hnamed hbranch
  | unrecognized => exact hidle (by rw [hbranch]; rfl)

end Readers

/-! ## Through any number of passes -/

section Passes

variable {r : ArmorRef} {armors : ArmorRef → TESObjectARMO}

/-- Genital armor and unmarked armor have after any passes what they have after one or none. -/
theorem runPasses_eq_or (hnamed : LookupsNamed game)
    (h : isSosTngGenitalArmor game (armors r) = true ∨ Unmarked game (armors r))
    (passes : List (Option FormArray)) :
    runPasses game passes armors r = armors r ∨
      Unmarked game (armors r) ∧ runPasses game passes armors r = correct game (armors r) := by
  cases h with
  | inl hgenital =>
    left
    exact runPasses_invariant (fun armor => armor = armors r)
      (fun armor heq => by rw [heq, correctArmor_untouched _ (.inl hgenital)]) rfl passes
  | inr h =>
    have hinv : runPasses game passes armors r = armors r ∨
        runPasses game passes armors r = correct game (armors r) := by
      apply runPasses_invariant (fun armor => armor = armors r ∨ armor = correct game (armors r))
      · rintro armor (rfl | rfl)
        · exact Or.inr rfl
        · exact Or.inr (h.settled hnamed)
      · exact Or.inl rfl
    exact hinv.imp_right fun heq => ⟨h, heq⟩

theorem looksLike_runPasses (hnamed : LookupsNamed game)
    (h : isSosTngGenitalArmor game (armors r) = true ∨ Unmarked game (armors r))
    {actor actor' : Actor} (hsex : isActorFemale (some actor') = isActorFemale (some actor))
    (passes : List (Option FormArray)) :
    LooksLike game actor actor' (armors r) (runPasses game passes armors r) := by
  rcases runPasses_eq_or hnamed h passes with hsame | ⟨hplain, hcorrect⟩
  · rw [hsame]
    exact looksLike_of_sex game hsex _
  · rw [hcorrect]
    obtain ⟨hgenital, hslots⟩ := correct_keeps hnamed hplain.nodup
    obtain ⟨hreveal, hconceal⟩ := readers_of_sex game hsex (correct game (armors r))
    exact {
      formID := by rw [Keywords.correct_eq hplain.nodup]; rfl
      slots := hslots
      genital := hgenital
      upperOnly := hplain.upperOnly_correct hnamed
      reveal := hreveal.trans (hplain.readers_correct hnamed).1
      conceal := hconceal.trans (hplain.readers_correct hnamed).2 }

end Passes

end FittingSchlongs.Keywords
