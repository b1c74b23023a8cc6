import FittingSchlongs.Armor.Forms
import FittingSchlongs.Text.Dictionary

/-! # The armor classifiers

Which armor is genital armor, which one carries a revealing or covering mark for
an actor, and what an unmarked one is taken for from its slots and names.
-/

namespace FittingSchlongs.Armor
open Text

variable (game : GameData)

/-! ## Editor IDs of the keywords and lists -/

def kSosGenitals : Bytes := stringView "SOS_Genitals"
def kSosRevealing : Bytes := stringView "SOS_Revealing"
def kSosConcealing : Bytes := stringView "SOS_Concealing"
def kSosUnderwear : Bytes := stringView "SOS_Underwear"
def kTngRevealing : Bytes := stringView "TNG_Revealing"
def kTngRevealingOnlyWomen : Bytes := stringView "TNG_RevealingOnlyWomen"
def kTngRevealingOnlyMen : Bytes := stringView "TNG_RevealingOnlyMen"
def kTngCovering : Bytes := stringView "TNG_Covering"
def kTngUnderwear : Bytes := stringView "TNG_Underwear"
def kSosRevealingArmors : Bytes := stringView "SOS_RevealingArmors"
def kSosConcealingArmors : Bytes := stringView "SOS_ConcealingArmors"

/-! ## Classification text -/

/-- The fields of the classification text in the order they are appended. -/
def classificationFields (armor : TESObjectARMO) : List Bytes :=
  getEditorID game (some armor.toTESForm) :: getDisplayName game armor ::
    armor.keywords.map (getEditorID game)

def buildArmorClassificationText (armor : TESObjectARMO) : Bytes :=
  (classificationFields game armor).foldl appendSearchText []

/-! ## Genital armor -/

def isSosTngGenitalArmor (armor : TESObjectARMO) : Bool :=
  let slotMask := getArmorDisplaySlotMask armor ||| armor.slotMask.setWidth 64
  if !hasSlot slotMask genitalSlotMask then false
  else if hasKeywordEditorID game armor kSosGenitals then true
  else
    let pluginName := toLower (getPluginName armor)
    let editorID := toLower (getEditorID game (some armor.toTESForm))
    let displayName := toLower (getDisplayName game armor)
    if contains editorID (stringView "genitalcover") ||
        contains displayName (stringView "genital cover") then false
    else if contains editorID (stringView "genital") ||
        contains editorID (stringView "schlong") ||
        contains displayName (stringView "genital") ||
        contains displayName (stringView "schlong") then true
    else if contains pluginName (stringView "schlongs of skyrim") &&
        (contains editorID (stringView "genital") ||
          contains editorID (stringView "schlong") ||
          contains displayName (stringView "schlong")) then true
    else
      contains pluginName (stringView "thenewgentleman") &&
        (stringView "tng_genital").isPrefixOf editorID &&
        !contains editorID (stringView "cover")

/-! ## Marks on an armor -/

def isGenitalRevealingArmor (actor : Option Actor) (armor : TESObjectARMO) : Bool :=
  let isFemale := isActorFemale actor
  hasKeywordEditorID game armor kSosRevealing ||
    hasKeywordEditorID game armor kTngRevealing ||
    (isFemale && hasKeywordEditorID game armor kTngRevealingOnlyWomen) ||
    (!isFemale && hasKeywordEditorID game armor kTngRevealingOnlyMen) ||
    isFormInList game kSosRevealingArmors (some armor.toTESForm) ||
    armor.armorAddons.any (fun armorAddon =>
      isFormInList game kSosRevealingArmors (armorAddon.map (·.toTESForm)))

def isGenitalCoveringArmor (actor : Option Actor) (armor : TESObjectARMO) : Bool :=
  if hasKeywordEditorID game armor kSosConcealing ||
      hasKeywordEditorID game armor kSosUnderwear ||
      hasKeywordEditorID game armor kTngCovering ||
      isFormInList game kSosConcealingArmors (some armor.toTESForm) then true
  else if armor.armorAddons.any (fun armorAddon =>
      isFormInList game kSosConcealingArmors (armorAddon.map (·.toTESForm))) then true
  else
    let isFemale := isActorFemale actor
    (isFemale && hasKeywordEditorID game armor kTngRevealingOnlyMen) ||
      (!isFemale && hasKeywordEditorID game armor kTngRevealingOnlyWomen)

/-! ## What slots and names suggest -/

def isLikelyGenitalConcealingPelvisArmor (armor : TESObjectARMO) : Bool :=
  if !hasSlot (getArmorDisplaySlotMask armor) pelvisPrimarySlotMask then false
  else if hasKeywordEditorID game armor kSosUnderwear ||
      hasKeywordEditorID game armor kTngUnderwear then true
  else containsAnySearchTerm (buildArmorClassificationText game armor) kLowerBodyTerms

/-- The verdict of the upper-only dictionaries on a classification text. -/
def isUpperOnlyText (text : Bytes) : Bool :=
  if containsAnySearchTerm text kExplicitUpperOnlyTerms then true
  else if containsAnySearchTerm text kLowerBodyBlockers then false
  else containsAnySearchTerm text kUpperBodyTerms

def isLikelyUpperOnlyBodyArmor (armor : TESObjectARMO) : Bool :=
  if !hasSlot (getArmorDisplaySlotMask armor) bodySlotMask then false
  else isUpperOnlyText (buildArmorClassificationText game armor)

/-- A slot test on the mask cut to 32 bits. -/
def hasDisplaySlot (armor : TESObjectARMO) (slots : SlotMask) : Bool :=
  (getArmorDisplaySlotMask armor).setWidth 32 &&& slots ≠ 0

def isCorrectionRelevantArmor (actor : Option Actor) (armor : TESObjectARMO) : Bool :=
  if isSosTngGenitalArmor game armor then false
  else if isGenitalCoveringArmor game actor armor ||
      isGenitalRevealingArmor game actor armor then false
  else
    hasDisplaySlot armor bodySlotMask || hasDisplaySlot armor genitalSlotMask ||
      isLikelyGenitalConcealingPelvisArmor game armor

def shouldRevealGenitals (actor : Option Actor) (armor : TESObjectARMO) : Bool :=
  if isSosTngGenitalArmor game armor || isGenitalCoveringArmor game actor armor then false
  else isGenitalRevealingArmor game actor armor || isLikelyUpperOnlyBodyArmor game armor

def shouldConcealGenitals (actor : Option Actor) (armor : TESObjectARMO) : Bool :=
  if isSosTngGenitalArmor game armor || isGenitalRevealingArmor game actor armor then false
  else if hasDisplaySlot armor bodySlotMask then !isLikelyUpperOnlyBodyArmor game armor
  else
    hasDisplaySlot armor genitalSlotMask || isGenitalCoveringArmor game actor armor ||
      isLikelyGenitalConcealingPelvisArmor game armor

/-! ## Corrected slots -/

/-- An upper-only body armor gives up slot 52. -/
def getArmorCorrectionSlotMask (armor : TESObjectARMO) : BitVec 64 :=
  let slotMask := getArmorDisplaySlotMask armor
  if slotMask = 0 then slotMask
  else if !isSosTngGenitalArmor game armor && hasSlot slotMask bodySlotMask &&
      hasSlot slotMask genitalSlotMask && isLikelyUpperOnlyBodyArmor game armor then
    slotMask &&& ~~~(genitalSlotMask.setWidth 64)
  else slotMask

theorem hasDisplaySlot_eq (armor : TESObjectARMO) (slots : SlotMask) :
    hasDisplaySlot armor slots = hasSlot (getArmorDisplaySlotMask armor) slots := by
  simp only [hasDisplaySlot, hasSlot]
  generalize getArmorDisplaySlotMask armor = slotMask
  have hcut : (slotMask &&& slots.setWidth 64) = (slotMask.setWidth 32 &&& slots).setWidth 64 := by
    apply BitVec.eq_of_getLsbD_eq
    intro i hi
    simp only [BitVec.getLsbD_and, BitVec.getLsbD_setWidth, hi, decide_true, Bool.true_and]
    by_cases h : i < 32
    · simp [h]
    · simp [h, BitVec.getLsbD_of_ge slots i (by omega)]
  have hzero : (slotMask.setWidth 32 &&& slots).setWidth 64 = 0 ↔ slotMask.setWidth 32 &&& slots = 0 := by
    constructor
    · intro h
      have := congrArg (BitVec.setWidth 32) h
      simpa using this
    · intro h
      rw [h]
      rfl
  rw [hcut, decide_eq_decide, not_iff_not, hzero]

theorem hasSlot_of_upperOnly {armor : TESObjectARMO}
    (h : isLikelyUpperOnlyBodyArmor game armor = true) :
    hasSlot (getArmorDisplaySlotMask armor) bodySlotMask = true := by
  simp only [isLikelyUpperOnlyBodyArmor] at h
  split_ifs at h with hslot
  simpa using hslot

theorem isLikelyUpperOnlyBodyArmor_of_slot {armor : TESObjectARMO}
    (hslot : hasSlot (getArmorDisplaySlotMask armor) bodySlotMask = true) :
    isLikelyUpperOnlyBodyArmor game armor =
      isUpperOnlyText (buildArmorClassificationText game armor) := by
  simp [isLikelyUpperOnlyBodyArmor, hslot]

/-! ## Plain forms for concrete inputs -/

/-- No po3_Tweaks, no runtime keywords and no form lists. -/
def bareGame : GameData where
  po3EditorID := none
  lookupKeyword _ := none
  lookupFormList _ := none

/-- An armor known by its editor ID alone, with slots of its own and no keywords. -/
def plainArmor (formID : FormID) (editorID : String) (slots : SlotMask) : TESObjectARMO where
  formID := formID
  formEditorID := some (stringView editorID)
  name := none
  filename := none
  slotMask := slots
  armorAddons := []
  keywords := []

def plainActor (formID : FormID) (isFemale : Bool) (worn : List TESObjectARMO) : Actor where
  formID := formID
  actorBase := some ⟨isFemale⟩
  isDeleted := false
  isDisabled := false
  is3DLoaded := true
  hasProcess := true
  inventoryChanges := some (worn.map (fun a => some ⟨some (.armor a)⟩))

end FittingSchlongs.Armor
