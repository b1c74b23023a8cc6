import FittingSchlongs.Armor.Classifier
import FittingSchlongs.Foundation.ListUpdates

/-! # The runtime keyword pass

After the game data is loaded the plugin rewrites the SOS/TNG keywords of every
registered armor from the verdict of its classifiers. Each armor's new keyword
array is a function of that armor alone.
-/

namespace FittingSchlongs.Keywords
open Armor Text Foundation.ListUpdates

/-- `AddKeyword` appends. -/
def addKeywordIfPresent (armor : TESObjectARMO) (keyword : Option BGSKeyword) : TESObjectARMO :=
  match keyword with
  | none => armor
  | some keyword =>
    if armor.keywords.contains (some keyword) then armor
    else { armor with keywords := armor.keywords ++ [some keyword] }

/-- `RemoveKeyword` erases and keeps the order of the rest. -/
def removeKeywordIfPresent (armor : TESObjectARMO) (keyword : Option BGSKeyword) : TESObjectARMO :=
  match keyword with
  | none => armor
  | some keyword =>
    if armor.keywords.contains (some keyword) then
      { armor with keywords := armor.keywords.erase (some keyword) }
    else armor

structure RuntimeKeywords where
  sosRevealing : Option BGSKeyword
  sosConcealing : Option BGSKeyword
  sosUnderwear : Option BGSKeyword
  tngRevealing : Option BGSKeyword
  tngRevealingOnlyWomen : Option BGSKeyword
  tngRevealingOnlyMen : Option BGSKeyword
  tngCovering : Option BGSKeyword
  tngUnderwear : Option BGSKeyword

def RuntimeKeywords.hasAny (keywords : RuntimeKeywords) : Bool :=
  keywords.sosRevealing.isSome || keywords.sosConcealing.isSome ||
    keywords.sosUnderwear.isSome || keywords.tngRevealing.isSome ||
    keywords.tngRevealingOnlyWomen.isSome || keywords.tngRevealingOnlyMen.isSome ||
    keywords.tngCovering.isSome || keywords.tngUnderwear.isSome

def lookupRuntimeKeywords (game : GameData) : RuntimeKeywords where
  sosRevealing := game.lookupKeyword kSosRevealing
  sosConcealing := game.lookupKeyword kSosConcealing
  sosUnderwear := game.lookupKeyword kSosUnderwear
  tngRevealing := game.lookupKeyword kTngRevealing
  tngRevealingOnlyWomen := game.lookupKeyword kTngRevealingOnlyWomen
  tngRevealingOnlyMen := game.lookupKeyword kTngRevealingOnlyMen
  tngCovering := game.lookupKeyword kTngCovering
  tngUnderwear := game.lookupKeyword kTngUnderwear

def applyRevealingKeywordOverride (armor : TESObjectARMO) (keywords : RuntimeKeywords) :
    TESObjectARMO :=
  let armor := removeKeywordIfPresent armor keywords.sosConcealing
  let armor := removeKeywordIfPresent armor keywords.sosUnderwear
  let armor := removeKeywordIfPresent armor keywords.tngCovering
  let armor := removeKeywordIfPresent armor keywords.tngUnderwear
  let armor := addKeywordIfPresent armor keywords.sosRevealing
  addKeywordIfPresent armor keywords.tngRevealing

def removeRevealingKeywordConflicts (armor : TESObjectARMO) (keywords : RuntimeKeywords) :
    TESObjectARMO :=
  let armor := removeKeywordIfPresent armor keywords.sosRevealing
  let armor := removeKeywordIfPresent armor keywords.tngRevealing
  let armor := removeKeywordIfPresent armor keywords.tngRevealingOnlyWomen
  removeKeywordIfPresent armor keywords.tngRevealingOnlyMen

def applyConcealingKeywordOverride (armor : TESObjectARMO) (keywords : RuntimeKeywords) :
    TESObjectARMO :=
  let armor := removeRevealingKeywordConflicts armor keywords
  let armor := addKeywordIfPresent armor keywords.sosConcealing
  let armor := addKeywordIfPresent armor keywords.sosUnderwear
  let armor := addKeywordIfPresent armor keywords.tngCovering
  addKeywordIfPresent armor keywords.tngUnderwear

/-- The branches of the loop body. -/
inductive CorrectionBranch where
  /-- Genital armor is skipped. -/
  | genital
  /-- Upper-only clothing becomes revealing. -/
  | upperRevealing
  /-- Slot 32 covers by default. -/
  | bodyDefault
  /-- Slot 49 garments become concealing. -/
  | pelvisConcealing
  /-- Nothing is recognized. -/
  | unrecognized
  deriving DecidableEq

def correctionBranch (game : GameData) (armor : TESObjectARMO) : CorrectionBranch :=
  if isSosTngGenitalArmor game armor then .genital
  else if isLikelyUpperOnlyBodyArmor game armor then .upperRevealing
  else if hasSlot (getArmorDisplaySlotMask armor) bodySlotMask then .bodyDefault
  else if isLikelyGenitalConcealingPelvisArmor game armor then .pelvisConcealing
  else .unrecognized

/-- The loop body on one armor. -/
def correctArmor (game : GameData) (keywords : RuntimeKeywords) (armor : TESObjectARMO) :
    TESObjectARMO :=
  match correctionBranch game armor with
  | .genital => armor
  | .upperRevealing => applyRevealingKeywordOverride armor keywords
  | .bodyDefault => removeRevealingKeywordConflicts armor keywords
  | .pelvisConcealing => applyConcealingKeywordOverride armor keywords
  | .unrecognized => armor

abbrev ArmorRef := ℕ

/-- `GetFormArray<RE::TESObjectARMO>()`: pointers that may be null, each armor registered once. -/
structure FormArray where
  refs : List (Option ArmorRef)
  nodup_refs : refs.reduceOption.Nodup

/-- The pass, on the armors in memory. Without a data handler or any runtime keyword it
does nothing. -/
def applyRuntimeArmorCorrections (game : GameData) (dataHandler : Option FormArray)
    (armors : ArmorRef → TESObjectARMO) : ArmorRef → TESObjectARMO :=
  match dataHandler with
  | none => armors
  | some formArray =>
    let keywords := lookupRuntimeKeywords game
    if !keywords.hasAny then armors
    else rewriteCells (correctArmor game keywords) formArray.refs armors

/-! ## The rewrites as array operations -/

section Arrays

variable (armor : TESObjectARMO) (keywords : RuntimeKeywords)

def RuntimeKeywords.concealing : List (Option BGSKeyword) :=
  [keywords.sosConcealing, keywords.sosUnderwear, keywords.tngCovering, keywords.tngUnderwear]

def RuntimeKeywords.revealing : List (Option BGSKeyword) :=
  [keywords.sosRevealing, keywords.tngRevealing, keywords.tngRevealingOnlyWomen,
    keywords.tngRevealingOnlyMen]

def RuntimeKeywords.addedRevealing : List (Option BGSKeyword) :=
  [keywords.sosRevealing, keywords.tngRevealing]

def withKeywords (array : List (Option BGSKeyword)) : TESObjectARMO := { armor with keywords := array }

@[simp] theorem withKeywords_keywords (array : List (Option BGSKeyword)) :
    (withKeywords armor array).keywords = array := rfl

@[simp] theorem withKeywords_self : withKeywords armor armor.keywords = armor := rfl

@[simp] theorem withKeywords_withKeywords (a b : List (Option BGSKeyword)) :
    withKeywords (withKeywords armor a) b = withKeywords armor b := rfl

theorem addKeywordIfPresent_eq (keyword : Option BGSKeyword) :
    addKeywordIfPresent armor keyword = withKeywords armor (appendEntry armor.keywords keyword) := by
  cases keyword with
  | none => rfl
  | some keyword =>
    simp only [addKeywordIfPresent, appendEntry]
    split_ifs <;> rfl

theorem removeKeywordIfPresent_eq (keyword : Option BGSKeyword) :
    removeKeywordIfPresent armor keyword = withKeywords armor (eraseEntry armor.keywords keyword) := by
  cases keyword with
  | none => rfl
  | some keyword =>
    simp only [removeKeywordIfPresent, eraseEntry]
    split_ifs <;> rfl

variable {armor}

theorem applyRevealingKeywordOverride_eq (h : armor.keywords.Nodup) :
    applyRevealingKeywordOverride armor keywords =
      withKeywords armor (keywords.addedRevealing.foldl appendEntry
        (without keywords.concealing armor.keywords)) := by
  rw [← foldl_eraseEntry h]
  simp only [applyRevealingKeywordOverride, removeKeywordIfPresent_eq, addKeywordIfPresent_eq,
    withKeywords_keywords, withKeywords_withKeywords, RuntimeKeywords.concealing,
    RuntimeKeywords.addedRevealing, List.foldl_cons, List.foldl_nil]

theorem removeRevealingKeywordConflicts_eq (h : armor.keywords.Nodup) :
    removeRevealingKeywordConflicts armor keywords =
      withKeywords armor (without keywords.revealing armor.keywords) := by
  rw [← foldl_eraseEntry h]
  simp only [removeRevealingKeywordConflicts, removeKeywordIfPresent_eq, withKeywords_keywords,
    withKeywords_withKeywords, RuntimeKeywords.revealing, List.foldl_cons, List.foldl_nil]

theorem applyConcealingKeywordOverride_eq (h : armor.keywords.Nodup) :
    applyConcealingKeywordOverride armor keywords =
      withKeywords armor (keywords.concealing.foldl appendEntry
        (without keywords.revealing armor.keywords)) := by
  simp only [applyConcealingKeywordOverride, removeRevealingKeywordConflicts_eq keywords h,
    addKeywordIfPresent_eq, withKeywords_keywords, withKeywords_withKeywords,
    RuntimeKeywords.concealing, List.foldl_cons, List.foldl_nil]

/-- The keyword array one pass leaves on an armor of a given branch. -/
def correctedArray (branch : CorrectionBranch) (array : List (Option BGSKeyword)) :
    List (Option BGSKeyword) :=
  match branch with
  | .genital => array
  | .upperRevealing => keywords.addedRevealing.foldl appendEntry (without keywords.concealing array)
  | .bodyDefault => without keywords.revealing array
  | .pelvisConcealing => keywords.concealing.foldl appendEntry (without keywords.revealing array)
  | .unrecognized => array

theorem correctArmor_eq (game : GameData) (h : armor.keywords.Nodup) :
    correctArmor game keywords armor =
      withKeywords armor (correctedArray keywords (correctionBranch game armor) armor.keywords) := by
  simp only [correctArmor, correctedArray]
  cases correctionBranch game armor with
  | genital => rfl
  | upperRevealing => exact applyRevealingKeywordOverride_eq keywords h
  | bodyDefault => exact removeRevealingKeywordConflicts_eq keywords h
  | pelvisConcealing => exact applyConcealingKeywordOverride_eq keywords h
  | unrecognized => rfl

theorem nodup_correctedArray (branch : CorrectionBranch) {array : List (Option BGSKeyword)}
    (h : array.Nodup) : (correctedArray keywords branch array).Nodup := by
  cases branch with
  | genital => exact h
  | upperRevealing => exact nodup_foldl_appendEntry (nodup_without h _) _
  | bodyDefault => exact nodup_without h _
  | pelvisConcealing => exact nodup_foldl_appendEntry (nodup_without h _) _
  | unrecognized => exact h

end Arrays

end FittingSchlongs.Keywords
