import FittingSchlongs.Text.SearchText

/-! # The game forms the plugin reads

Forms carry the members the plugin reads and nothing else. A pointer that may be
null is an `Option`; two pointers to the same form are equal values, because the
form ID is part of the value.
-/

namespace FittingSchlongs.Armor
open Text

abbrev FormID := BitVec 32

/-- `RE::BGSBipedObjectForm::BipedObjectSlot`, one bit for each of the slots 30 to 61. -/
abbrev SlotMask := BitVec 32

/-- A form with the editor ID the engine kept for it. -/
structure TESForm where
  formID : FormID
  formEditorID : Option Bytes
  deriving DecidableEq

/-- A keyword; `TESForm` members are all the plugin reads of it. -/
abbrev BGSKeyword := TESForm

structure TESObjectARMA extends TESForm where
  slotMask : SlotMask
  deriving DecidableEq

structure TESObjectARMO extends TESForm where
  /-- `GetName()`. -/
  name : Option Bytes
  /-- `GetFile(0)->GetFilename()`, when there is a file. -/
  filename : Option Bytes
  slotMask : SlotMask
  armorAddons : List (Option TESObjectARMA)
  keywords : List (Option BGSKeyword)
  deriving DecidableEq

/-- An object an inventory entry can hold; only armors matter here. -/
inductive TESBoundObject where
  | armor (armor : TESObjectARMO)
  | other (form : TESForm)
  deriving DecidableEq

structure InventoryEntryData where
  object : Option TESBoundObject
  deriving DecidableEq

/-- The entries `VisitWornItems` enumerates. -/
abbrev WornItems := List (Option InventoryEntryData)

structure TESNPC where
  isFemale : Bool
  deriving DecidableEq

structure Actor where
  formID : FormID
  actorBase : Option TESNPC
  isDeleted : Bool
  isDisabled : Bool
  is3DLoaded : Bool
  /-- `GetActorRuntimeData().currentProcess` is not null. -/
  hasProcess : Bool
  /-- The worn items of `GetInventoryChanges()`. -/
  inventoryChanges : Option WornItems
  deriving DecidableEq

inductive TESObjectREFR where
  | actor (actor : Actor)
  | other (inventoryChanges : Option WornItems)
  deriving DecidableEq

def TESObjectREFR.asActor : TESObjectREFR → Option Actor
  | .actor a => some a
  | .other _ => none

def TESObjectREFR.getInventoryChanges : TESObjectREFR → Option WornItems
  | .actor a => a.inventoryChanges
  | .other inventory => inventory

def TESBoundObject.asArmor : TESBoundObject → Option TESObjectARMO
  | .armor a => some a
  | .other _ => none

/-- The lookups the engine and powerofthree's Tweaks answer. -/
structure GameData where
  /-- `GetFormEditorID` of po3_Tweaks, when that module is loaded. -/
  po3EditorID : Option (FormID → Option Bytes)
  /-- `LookupByEditorID<RE::BGSKeyword>`. -/
  lookupKeyword : Bytes → Option BGSKeyword
  /-- `LookupByEditorID<RE::BGSListForm>`, with the form IDs of the list. -/
  lookupFormList : Bytes → Option (List FormID)

variable (game : GameData)

def getPo3EditorID (formID : FormID) : Bytes :=
  match game.po3EditorID with
  | none => []
  | some function => copyCString (function formID)

def getEditorID (form : Option TESForm) : Bytes :=
  match form with
  | none => []
  | some form =>
    let editorID := copyCString form.formEditorID
    if editorID.isEmpty then getPo3EditorID game form.formID else editorID

def getDisplayName (armor : TESObjectARMO) : Bytes :=
  let name := copyCString armor.name
  if !name.isEmpty then name else getEditorID game (some armor.toTESForm)

def getPluginName (armor : TESObjectARMO) : Bytes := armor.filename.getD []

/-- `IsFormInList` for a form that may be null. -/
def isFormInList (editorID : Bytes) (form : Option TESForm) : Bool :=
  match form with
  | none => false
  | some form =>
    if editorID.isEmpty then false
    else match game.lookupFormList editorID with
      | none => false
      | some formList => formList.contains form.formID

def hasKeywordEditorID (armor : TESObjectARMO) (editorID : Bytes) : Bool :=
  if editorID.isEmpty then false
  else armor.keywords.any (fun keyword => keyword.isSome && getEditorID game keyword == editorID)

def isActorFemale (actor : Option Actor) : Bool :=
  match actor with
  | none => false
  | some actor => match actor.actorBase with
    | none => false
    | some actorBase => actorBase.isFemale

/-! ## Slots -/

/-- Slot 32. -/
def bodySlotMask : SlotMask := 1 <<< 2

/-- Slot 52. -/
def genitalSlotMask : SlotMask := 1 <<< 22

/-- Slot 49. -/
def pelvisPrimarySlotMask : SlotMask := 1 <<< 19

/-- The 64-bit OR of the addons' slots. -/
def getArmorAddonSlotMask (armor : TESObjectARMO) : BitVec 64 :=
  armor.armorAddons.foldl
    (fun slotMask armorAddon =>
      match armorAddon with
      | none => slotMask
      | some armorAddon => slotMask ||| armorAddon.slotMask.setWidth 64)
    0

def getArmorDisplaySlotMask (armor : TESObjectARMO) : BitVec 64 :=
  let armorSlotMask := armor.slotMask.setWidth 64
  if armorSlotMask ≠ 0 then armorSlotMask else getArmorAddonSlotMask armor

/-- The 64-bit mask shares a slot with a 32-bit one. -/
def hasSlot (slotMask : BitVec 64) (slots : SlotMask) : Bool := slotMask &&& slots.setWidth 64 ≠ 0

theorem hasKeywordEditorID_iff {armor : TESObjectARMO} {editorID : Bytes} (hne : editorID ≠ []) :
    hasKeywordEditorID game armor editorID = true ↔
      ∃ keyword, some keyword ∈ armor.keywords ∧ getEditorID game (some keyword) = editorID := by
  simp only [hasKeywordEditorID, List.isEmpty_iff, hne, ↓reduceIte, List.any_eq_true,
    Bool.and_eq_true, beq_iff_eq]
  constructor
  · rintro ⟨keyword, hmem, hsome, heq⟩
    obtain ⟨keyword, rfl⟩ := Option.isSome_iff_exists.mp hsome
    exact ⟨keyword, hmem, heq⟩
  · rintro ⟨keyword, hmem, heq⟩
    exact ⟨some keyword, hmem, rfl, heq⟩

end FittingSchlongs.Armor
