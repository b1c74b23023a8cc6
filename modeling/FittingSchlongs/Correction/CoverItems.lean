import FittingSchlongs.Correction.Queries

/-! # Cover items of The New Gentleman

An item of that plugin whose editor ID begins like genital armor but names a cover is a
garment. The rule made for such items is the last one; before it the broad name rules
have taken every item whose editor ID contains "genital", unless an exact phrase kept it out.
-/

namespace FittingSchlongs.Correction
open Armor Text

variable {game : GameData} {armor : TESObjectARMO}

/-- The phrases that keep an item from being taken for genital armor by its names. -/
def hasCoverPhrase (game : GameData) (armor : TESObjectARMO) : Bool :=
  contains (toLower (getEditorID game (some armor.toTESForm))) (stringView "genitalcover") ||
    contains (toLower (getDisplayName game armor)) (stringView "genital cover")

/-- The slots by which `IsSosTngGenitalArmor` admits an armor. -/
def hasGenitalSlot (armor : TESObjectARMO) : Bool :=
  hasSlot (getArmorDisplaySlotMask armor ||| armor.slotMask.setWidth 64) genitalSlotMask

theorem contains_of_prefix {text front term : Bytes} (hfront : front.isPrefixOf text = true)
    (h : contains front term = true) : contains text term = true := by
  rw [contains_iff] at h ⊢
  exact h.trans (List.isPrefixOf_iff_prefix.mp hfront).isInfix

theorem isSosTngGenitalArmor_of_editorID
    (hkeyword : hasKeywordEditorID game armor kSosGenitals = false)
    (hgenital : contains (toLower (getEditorID game (some armor.toTESForm)))
      (stringView "genital") = true) :
    isSosTngGenitalArmor game armor = (hasGenitalSlot armor && !hasCoverPhrase game armor) := by
  cases hslot : hasGenitalSlot armor with
  | false =>
    rw [hasGenitalSlot] at hslot
    simp [isSosTngGenitalArmor, hslot]
  | true =>
    rw [hasGenitalSlot] at hslot
    cases hphrase : hasCoverPhrase game armor <;> rw [hasCoverPhrase] at hphrase <;>
      simp only [isSosTngGenitalArmor, hslot, hkeyword, hphrase, hgenital, Bool.true_or,
        Bool.not_true, Bool.not_false, Bool.false_eq_true, Bool.and_true, Bool.and_false, ↓reduceIte]

theorem not_hidden_of_not_genital (h : isSosTngGenitalArmor game armor = false)
    (order : SetOrder TESObjectARMO) (gameDataLoaded : Bool) (actor : Actor)
    (hids : FormIDsIdentify (armor :: wornArmors actor)) :
    armor.formID ∉ (buildCorrectionSet game order gameDataLoaded (some actor)).hiddenArmorFormIDs := by
  rw [mem_hiddenArmorFormIDs]
  rintro ⟨-, -, a, ha, hgenital, hid⟩
  have heq : a = armor := hids a (List.mem_cons_of_mem armor ha) armor List.mem_cons_self hid
  rw [heq, h] at hgenital
  exact Bool.false_ne_true hgenital

/-- An item named like genital armor of The New Gentleman is kept out of the genital armors,
and so out of every hidden set, exactly when it has no slot 52 or one of the two exact phrases;
whether its editor ID contains "cover" does not matter. -/
theorem cover_item_iff (hkeyword : hasKeywordEditorID game armor kSosGenitals = false)
    (hstart : (stringView "tng_genital").isPrefixOf
      (toLower (getEditorID game (some armor.toTESForm))) = true) :
    (isSosTngGenitalArmor game armor = false ∧
      ∀ (order : SetOrder TESObjectARMO) (gameDataLoaded : Bool) (actor : Actor),
        FormIDsIdentify (armor :: wornArmors actor) →
        armor.formID ∉
          (buildCorrectionSet game order gameDataLoaded (some actor)).hiddenArmorFormIDs) ↔
      hasGenitalSlot armor = false ∨ hasCoverPhrase game armor = true := by
  have hgenital := contains_of_prefix hstart (by decide :
    contains (stringView "tng_genital") (stringView "genital") = true)
  have hverdict : isSosTngGenitalArmor game armor = false ↔
      hasGenitalSlot armor = false ∨ hasCoverPhrase game armor = true := by
    rw [isSosTngGenitalArmor_of_editorID hkeyword hgenital, Bool.and_eq_false_iff,
      Bool.not_eq_false']
  constructor
  · exact fun h => hverdict.mp h.1
  · intro h
    have hnot := hverdict.mpr h
    exact ⟨hnot, not_hidden_of_not_genital hnot⟩

def tngItem (editorID : String) : TESObjectARMO :=
  { plainArmor 1 editorID genitalSlotMask with filename := some (stringView "TheNewGentleman.esp") }

theorem cover_item_iff_phrase : isSosTngGenitalArmor bareGame (tngItem "TNG_GenitalCover") = false :=
  ((cover_item_iff (by decide) (by decide)).mpr (by decide)).1

/-- One letter between the two words is enough to take the garment for genital armor. -/
theorem genitals_cover_taken :
    ¬∀ (game : GameData) (armor : TESObjectARMO),
      hasKeywordEditorID game armor kSosGenitals = false →
      contains (toLower (getPluginName armor)) (stringView "thenewgentleman") = true →
      (stringView "tng_genital").isPrefixOf
        (toLower (getEditorID game (some armor.toTESForm))) = true →
      contains (toLower (getEditorID game (some armor.toTESForm))) (stringView "cover") = true →
      isSosTngGenitalArmor game armor = false := by
  intro h
  have hcover := h bareGame (tngItem "TNG_GenitalsCover") (by decide) (by decide) (by decide)
    (by decide)
  revert hcover
  decide

/-! ## The rules that decide -/

/-- One of the words by which an armor is taken for genital armor is in a name of it. -/
def NamedGenital (game : GameData) (armor : TESObjectARMO) : Prop :=
  ∃ name ∈ [toLower (getEditorID game (some armor.toTESForm)), toLower (getDisplayName game armor)],
    contains name (stringView "genital") = true ∨ contains name (stringView "schlong") = true

/-- The two rules for single plugins say nothing that the name rule before them does not. -/
theorem plugin_rules_idle : ∀ editorGenital editorSchlong nameGenital nameSchlong sosPlugin
    tngPlugin start cover : Bool, (start = true → editorGenital = true) →
    (if editorGenital || editorSchlong || nameGenital || nameSchlong then true
      else if sosPlugin && (editorGenital || editorSchlong || nameSchlong) then true
      else tngPlugin && start && !cover) =
    (editorGenital || editorSchlong || nameGenital || nameSchlong) := by decide

/-- The keyword or the names decide in slot 52. Neither of the two rules for single plugins ever
does, so the file an armor comes from does not matter. -/
theorem genital_armor_iff (game : GameData) (armor : TESObjectARMO) :
    (isSosTngGenitalArmor game armor = true ↔
      hasGenitalSlot armor = true ∧ (hasKeywordEditorID game armor kSosGenitals = true ∨
        hasCoverPhrase game armor = false ∧ NamedGenital game armor)) ∧
    ∀ filename, isSosTngGenitalArmor game { armor with filename := filename } =
      isSosTngGenitalArmor game armor := by
  have hiff : ∀ a : TESObjectARMO, isSosTngGenitalArmor game a = true ↔
      hasGenitalSlot a = true ∧ (hasKeywordEditorID game a kSosGenitals = true ∨
        hasCoverPhrase game a = false ∧ NamedGenital game a) := by
    intro a
    -- The last rule asks for the start of an editor ID that the name rule has taken.
    have hstart : (stringView "tng_genital").isPrefixOf
        (toLower (getEditorID game (some a.toTESForm))) = true →
        contains (toLower (getEditorID game (some a.toTESForm))) (stringView "genital") = true :=
      fun h => contains_of_prefix h (by decide)
    rw [isSosTngGenitalArmor]
    simp only [plugin_rules_idle _ _ _ _ _ _ _ _ hstart]
    rw [← hasGenitalSlot, ← hasCoverPhrase]
    simp only [NamedGenital, List.exists_mem_cons_iff, List.not_mem_nil, false_and, exists_false,
      or_false]
    split_ifs with hslot hkeyword hphrase <;> simp_all [or_assoc]
  refine ⟨hiff armor, fun filename => ?_⟩
  rw [Bool.eq_iff_iff, hiff, hiff]
  rfl

end FittingSchlongs.Correction
