import FittingSchlongs.Keywords.Passes
import FittingSchlongs.Keywords.Stability
import Mathlib.Dynamics.FixedPoints.Basic

/-! # Convergence of the passes

An explicit upper-only term, once it matches, matches after every rewrite. So the
verdict on a body armor changes at most twice, first when a dropped concealing
keyword brings a blocker together and then when a dropped revealing one brings an
explicit term together, and the third rewrite is the last that can change anything.
-/

namespace FittingSchlongs.Keywords
open Armor Text Foundation.ListUpdates Function

variable {game : GameData} {armor : TESObjectARMO}

/-- The loop body with the keywords the game looks up. -/
def correct (game : GameData) : TESObjectARMO → TESObjectARMO :=
  correctArmor game (lookupRuntimeKeywords game)

/-! ## From one rewrite to the next -/

theorem correct_eq (hnodup : armor.keywords.Nodup) :
    correct game armor = withKeywords armor (correctedArray (lookupRuntimeKeywords game)
      (correctionBranch game armor) armor.keywords) :=
  correctArmor_eq _ game hnodup

theorem nodup_correct (hnodup : armor.keywords.Nodup) : (correct game armor).keywords.Nodup := by
  rw [correct_eq hnodup]
  exact nodup_correctedArray _ _ hnodup

theorem settled_of_same_branch (hnamed : LookupsNamed game) (hnodup : armor.keywords.Nodup)
    (hsame : correctionBranch game (correct game armor) = correctionBranch game armor) :
    IsFixedPt (correct game) (correct game armor) := by
  have hagain : correct game (correct game armor) = _ := correct_eq (nodup_correct hnodup)
  rw [hsame] at hagain
  rw [IsFixedPt, hagain, correct_eq hnodup, withKeywords_withKeywords, withKeywords_keywords,
    correctedArray_twice hnamed]

theorem settled_correct {n : ℕ} (h : IsFixedPt (correct game) ((correct game)^[n] armor)) :
    IsFixedPt (correct game) ((correct game)^[n + 1] armor) := by
  rw [iterate_succ_apply', h.eq]
  exact h

theorem correct_keeps (hnamed : LookupsNamed game) (hnodup : armor.keywords.Nodup) :
    isSosTngGenitalArmor game (correct game armor) = isSosTngGenitalArmor game armor ∧
      getArmorDisplaySlotMask (correct game armor) = getArmorDisplaySlotMask armor := by
  rw [correct_eq hnodup]
  exact ⟨isSosTngGenitalArmor_corrected hnamed _, rfl⟩

theorem settled_of_no_body (hnamed : LookupsNamed game) (hnodup : armor.keywords.Nodup)
    (hslot : hasSlot (getArmorDisplaySlotMask armor) bodySlotMask = false) :
    IsFixedPt (correct game) (correct game armor) := by
  have hagain : correct game (correct game armor) = _ := correct_eq (nodup_correct hnodup)
  rw [IsFixedPt, hagain, correct_eq hnodup, withKeywords_withKeywords, withKeywords_keywords,
    (correctedArray_settles_iff hnamed rfl).mpr (verdictSettles_of_no_body hslot)]

theorem settled_of_explicit (hnamed : LookupsNamed game) (hnodup : armor.keywords.Nodup)
    (hbranch : correctionBranch game armor = .upperRevealing)
    (hexplicit : textHas game armor kExplicitUpperOnlyTerms armor.keywords = true) :
    IsFixedPt (correct game) (correct game armor) := by
  obtain ⟨hgenital, hslot, hupper⟩ := branch_upperRevealing hbranch
  apply settled_of_same_branch hnamed hnodup
  have hkept : textHas game armor kExplicitUpperOnlyTerms
      (keywordsWithout game armor concealingEditorIDs) = true :=
    textHas_without hnamed concealing_subset_managed explicit_mem hexplicit
  rw [correct_eq hnodup, hbranch, branch_after_upper hnamed hgenital hslot hupper,
    if_pos (Or.inl hkept)]

theorem settled_after_bodyDefault (hnamed : LookupsNamed game) (hnodup : armor.keywords.Nodup)
    (hbranch : correctionBranch game armor = .bodyDefault) :
    IsFixedPt (correct game) ((correct game)^[2] armor) := by
  obtain ⟨hgenital, hslot, hupper⟩ := branch_bodyDefault hbranch
  have hafter := branch_after_bodyDefault hnamed hgenital hslot hupper
  have hcorrect : correct game armor = _ := correct_eq hnodup
  rw [hbranch] at hcorrect
  rw [← hcorrect] at hafter
  by_cases hexplicit : textHas game armor kExplicitUpperOnlyTerms
      (keywordsWithout game armor revealingEditorIDs) = true
  · rw [if_pos hexplicit] at hafter
    apply settled_of_explicit hnamed (nodup_correct hnodup) hafter
    rw [hcorrect]
    exact hexplicit
  · rw [if_neg hexplicit] at hafter
    exact settled_correct (n := 1)
      (settled_of_same_branch hnamed hnodup (hafter.trans hbranch.symm))

theorem settled_after_upper (hnamed : LookupsNamed game) (hnodup : armor.keywords.Nodup)
    (hbranch : correctionBranch game armor = .upperRevealing) :
    IsFixedPt (correct game) ((correct game)^[3] armor) := by
  obtain ⟨hgenital, hslot, hupper⟩ := branch_upperRevealing hbranch
  have hafter := branch_after_upper hnamed hgenital hslot hupper
  rw [← hbranch, ← correct_eq hnodup] at hafter
  split_ifs at hafter
  · exact settled_correct (settled_correct (n := 1) (settled_of_same_branch hnamed hnodup hafter))
  · rw [iterate_succ_apply]
    exact settled_after_bodyDefault hnamed (nodup_correct hnodup) hafter

theorem settled_after_three (hnamed : LookupsNamed game) (hnodup : armor.keywords.Nodup) :
    IsFixedPt (correct game) ((correct game)^[3] armor) := by
  cases hbranch : correctionBranch game armor with
  | genital =>
    have hkept : IsFixedPt (correct game) armor := by
      simp only [IsFixedPt, correct, correctArmor, hbranch]
    rw [hkept.iterate 3]
    exact hkept
  | upperRevealing => exact settled_after_upper hnamed hnodup hbranch
  | bodyDefault => exact settled_correct (settled_after_bodyDefault hnamed hnodup hbranch)
  | pelvisConcealing =>
    obtain ⟨-, hslot, -⟩ := branch_pelvisConcealing hbranch
    exact settled_correct (settled_correct (n := 1) (settled_of_no_body hnamed hnodup hslot))
  | unrecognized =>
    have hslot := branch_unrecognized hbranch
    exact settled_correct (settled_correct (n := 1) (settled_of_no_body hnamed hnodup hslot))

/-! ## The settled array -/

/-- The runtime keywords on a settled body armor are those of its verdict. -/
structure Agrees (game : GameData) (armor : TESObjectARMO) : Prop where
  revealing : isLikelyUpperOnlyBodyArmor game armor = true →
    (∀ name ∈ addedRevealingEditorIDs, ∀ keyword ∈ game.lookupKeyword name,
      some keyword ∈ armor.keywords) ∧
    CarriesNone game armor concealingEditorIDs
  covering : isLikelyUpperOnlyBodyArmor game armor = false →
    CarriesNone game armor revealingEditorIDs

/-- A branch that changes nothing finds what it adds and nothing it drops. -/
theorem mem_of_settled (hnamed : LookupsNamed game) {branch : CorrectionBranch}
    {array : List (Option BGSKeyword)}
    (hsettled : correctedArray (lookupRuntimeKeywords game) branch array = array)
    (keyword : BGSKeyword) :
    (some keyword ∈ (addedEditorIDs branch).map game.lookupKeyword → some keyword ∈ array) ∧
      (some keyword ∈ (removedEditorIDs branch).map game.lookupKeyword → some keyword ∉ array) := by
  have hmem := @mem_correctedArray_iff game branch array keyword
  rw [hsettled] at hmem
  apply And.intro
  · exact fun hadded => hmem.mpr (Or.inr hadded)
  · intro hremoved hcarried
    cases hmem.mp hcarried with
    | inl hkept => exact hkept.2 hremoved
    | inr hadded =>
      exact lookups_disjoint hnamed (added_subset_managed branch) (removed_subset_managed branch)
        (added_not_removed branch) hadded hremoved

theorem agrees_of_settled (hnamed : LookupsNamed game) (hnodup : armor.keywords.Nodup)
    (hgenital : isSosTngGenitalArmor game armor = false)
    (hslot : hasSlot (getArmorDisplaySlotMask armor) bodySlotMask = true)
    (hsettled : (correct game armor).keywords = armor.keywords) : Agrees game armor := by
  rw [correct_eq hnodup, withKeywords_keywords] at hsettled
  have hmem := mem_of_settled hnamed hsettled
  constructor
  · intro hupper
    have hbranch : correctionBranch game armor = .upperRevealing := by
      simp [correctionBranch, hgenital, hupper]
    rw [hbranch] at hmem
    apply And.intro
    · intro name hname keyword hlookup
      exact (hmem keyword).1 (List.mem_map.mpr ⟨name, hname, hlookup⟩)
    · exact carriesNone_iff.mpr fun keyword => (hmem keyword).2
  · intro hupper
    have hbranch : correctionBranch game armor = .bodyDefault := by
      simp [correctionBranch, hgenital, hupper, hslot]
    rw [hbranch] at hmem
    exact carriesNone_iff.mpr fun keyword => (hmem keyword).2

theorem hasKeyword_eq_false (hregular : Regular game armor) {names : List Bytes}
    (hsub : names ⊆ managedEditorIDs) (hnone : CarriesNone game armor names) {name : Bytes}
    (hname : name ∈ names) : hasKeywordEditorID game armor name = false := by
  rw [← Bool.not_eq_true]
  intro hcarried
  have hmanaged := hsub hname
  obtain ⟨keyword, hlookup⟩ := Option.isSome_iff_exists.mp (hregular.complete name hmanaged hcarried)
  obtain ⟨carried, hmem, hid⟩ :=
    (hasKeywordEditorID_iff game (ne_nil_of_managed hmanaged)).mp hcarried
  rw [hregular.unique name hmanaged keyword hlookup _ hmem hid] at hmem
  exact hnone name hname keyword hlookup hmem

/-- The editor IDs on a settled body armor are those of its verdict. -/
structure AgreesByEditorID (game : GameData) (armor : TESObjectARMO) : Prop where
  revealing : isLikelyUpperOnlyBodyArmor game armor = true →
    (∀ name ∈ addedRevealingEditorIDs, (game.lookupKeyword name).isSome = true →
      hasKeywordEditorID game armor name = true) ∧
    ∀ name ∈ concealingEditorIDs, hasKeywordEditorID game armor name = false
  covering : isLikelyUpperOnlyBodyArmor game armor = false →
    ∀ name ∈ revealingEditorIDs, hasKeywordEditorID game armor name = false

theorem Agrees.byEditorID (hnamed : LookupsNamed game) (hregular : Regular game armor)
    (h : Agrees game armor) : AgreesByEditorID game armor where
  revealing := by
    intro hupper
    obtain ⟨hadded, hnone⟩ := h.revealing hupper
    apply And.intro
    · intro name hname hsome
      obtain ⟨keyword, hlookup⟩ := Option.isSome_iff_exists.mp hsome
      have hmanaged := addedRevealing_subset_managed hname
      rw [hasKeywordEditorID_iff game (ne_nil_of_managed hmanaged)]
      exact ⟨keyword, hadded name hname keyword hlookup, hnamed name hmanaged keyword hlookup⟩
    · intro name hname
      exact hasKeyword_eq_false hregular concealing_subset_managed hnone hname
  covering hupper _ hname :=
    hasKeyword_eq_false hregular revealing_subset_managed (h.covering hupper) hname

/-! ## Passes -/

variable {r : ArmorRef} {armors : ArmorRef → TESObjectARMO}

theorem runPasses_registered {passes : List (Option FormArray)}
    (hpasses : ∀ dataHandler ∈ passes, Registered r dataHandler) :
    runPasses game passes armors r = (correct game)^[passes.length] (armors r) := by
  induction passes generalizing armors with
  | nil => rfl
  | cons dataHandler passes ih =>
    rw [List.forall_mem_cons] at hpasses
    rw [runPasses_cons, ih hpasses.2, pass_registered hpasses.1]
    rfl

theorem runPasses_unregistered {passes : List (Option FormArray)}
    (hpasses : ∀ dataHandler ∈ passes, ¬Registered r dataHandler) :
    runPasses game passes armors r = armors r := by
  induction passes generalizing armors with
  | nil => rfl
  | cons dataHandler passes ih =>
    rw [List.forall_mem_cons] at hpasses
    rw [runPasses_cons, ih hpasses.2, pass_unregistered hpasses.1]

theorem runPasses_settled (h : IsFixedPt (correct game) (armors r))
    (passes : List (Option FormArray)) : runPasses game passes armors r = armors r :=
  runPasses_invariant (fun armor => armor = armors r) (fun armor heq => by rw [heq]; exact h) rfl
    passes

/-- An armor that settles after `n` rewrites is settled by `n` passes. -/
theorem runPasses_converge {n : ℕ} (h : IsFixedPt (correct game) ((correct game)^[n] (armors r)))
    {passes further : List (Option FormArray)} (hn : n ≤ passes.length)
    (hloads : (∀ dataHandler ∈ passes ++ further, Registered r dataHandler) ∨
      ∀ dataHandler ∈ passes ++ further, ¬Registered r dataHandler) :
    runPasses game (passes ++ further) armors r = runPasses game passes armors r := by
  cases hloads with
  | inl hregistered =>
    rw [runPasses_append]
    apply runPasses_settled
    rw [runPasses_registered fun dh hdh => hregistered dh (List.mem_append_left further hdh)]
    have hsplit : passes.length = passes.length - n + n := by omega
    rw [hsplit, iterate_add_apply, h.iterate]
    exact h
  | inr hunregistered =>
    rw [runPasses_unregistered hunregistered, runPasses_unregistered fun dh hdh =>
      hunregistered dh (List.mem_append_left further hdh)]

theorem runPasses_keeps (hnamed : LookupsNamed game) (hnodup : (armors r).keywords.Nodup)
    (passes : List (Option FormArray)) :
    (runPasses game passes armors r).keywords.Nodup ∧
      isSosTngGenitalArmor game (runPasses game passes armors r) =
        isSosTngGenitalArmor game (armors r) ∧
      getArmorDisplaySlotMask (runPasses game passes armors r) =
        getArmorDisplaySlotMask (armors r) := by
  apply runPasses_invariant (fun armor => armor.keywords.Nodup ∧
    isSosTngGenitalArmor game armor = isSosTngGenitalArmor game (armors r) ∧
    getArmorDisplaySlotMask armor = getArmorDisplaySlotMask (armors r))
  · rintro armor ⟨harray, hgenital, hslots⟩
    obtain ⟨hgenital', hslots'⟩ := correct_keeps hnamed harray
    exact ⟨nodup_correct harray, hgenital'.trans hgenital, hslots'.trans hslots⟩
  · exact ⟨hnodup, rfl, rfl⟩

/-- Three passes settle every armor and one pass settles an armor without the body slot. The
settled keywords of a body armor agree with the verdict on it. -/
theorem passes_converge (hnamed : LookupsNamed game) (hnodup : (armors r).keywords.Nodup)
    (passes : List (Option FormArray)) :
    (∀ further, (∀ dataHandler ∈ passes ++ further, Registered r dataHandler) ∨
        (∀ dataHandler ∈ passes ++ further, ¬Registered r dataHandler) →
      3 ≤ passes.length ∨
        1 ≤ passes.length ∧ hasSlot (getArmorDisplaySlotMask (armors r)) bodySlotMask = false →
      (runPasses game (passes ++ further) armors r).keywords =
        (runPasses game passes armors r).keywords) ∧
    (∀ dataHandler, Registered r dataHandler →
      (runPasses game (passes ++ [dataHandler]) armors r).keywords =
        (runPasses game passes armors r).keywords →
      isSosTngGenitalArmor game (armors r) = false →
      hasSlot (getArmorDisplaySlotMask (armors r)) bodySlotMask = true →
      Agrees game (runPasses game passes armors r) ∧
        (LookupsUnique game (armors r) → LookupsComplete game (armors r) →
          AgreesByEditorID game (runPasses game passes armors r))) := by
  apply And.intro
  · intro further hloads hlength
    rcases hlength with hthree | ⟨hone, hslot⟩
    · rw [runPasses_converge (settled_after_three hnamed hnodup) hthree hloads]
    · have hsettled : IsFixedPt (correct game) ((correct game)^[1] (armors r)) :=
        settled_of_no_body hnamed hnodup hslot
      rw [runPasses_converge hsettled hone hloads]
  · intro dataHandler hr hsettled hgenital hslot
    rw [runPasses_concat passes hr] at hsettled
    obtain ⟨hnodup', hgenital', hslots'⟩ := runPasses_keeps hnamed hnodup passes
    rw [← hgenital'] at hgenital
    rw [← hslots'] at hslot
    have hagrees := agrees_of_settled hnamed hnodup' hgenital hslot hsettled
    refine ⟨hagrees, fun hunique hcomplete => hagrees.byEditorID hnamed ?_⟩
    exact (frame_runPasses hnamed ⟨hnodup, hunique, hcomplete⟩ passes).1

/-- The armor that the first two passes rewrite back and forth. -/
theorem passes_converge_split_term :
    (runPasses taggedGame (List.replicate 4 (some ⟨[some 0], by decide⟩))
      (fun _ => withKeywords (plainArmor 1 "Mail" bodySlotMask) splitTermKeywords) 0).keywords =
    (runPasses taggedGame (List.replicate 3 (some ⟨[some 0], by decide⟩))
      (fun _ => withKeywords (plainArmor 1 "Mail" bodySlotMask) splitTermKeywords) 0).keywords := by
  have hregistered : Registered 0 (some ⟨[some 0], by decide⟩) := ⟨_, rfl, List.mem_singleton_self _⟩
  refine (passes_converge taggedGame_named (by decide) (List.replicate 3 _)).1 [_] (Or.inl ?_)
    (Or.inl (by decide))
  intro dataHandler hmem
  rwa [List.eq_of_mem_replicate (n := 4) hmem]

end FittingSchlongs.Keywords
