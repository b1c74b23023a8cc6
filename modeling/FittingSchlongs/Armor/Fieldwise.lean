import FittingSchlongs.Armor.FieldBoundaries

/-! # The name classifiers field by field

The classifiers search one text made of all names. Their verdict is decided without that text,
by the fields one at a time and by the two words at each place where fields meet. A term that
is spelled out in a field is always found, in any case and with any separators.
-/

namespace FittingSchlongs.Armor
open Text Foundation.Occurrence

/-! ## Terms written in a field -/

/-- The words of the term stand in a row among the words of the field. -/
def SpelledIn (term field : Bytes) : Prop := term.splitOn space <:+: fieldWords field

instance (term field : Bytes) : Decidable (SpelledIn term field) :=
  inferInstanceAs (Decidable (term.splitOn space <:+: fieldWords field))

section Spelled

variable {term : Bytes}

theorem forall₂_openPattern_self {words : List Bytes} (hne : words ≠ []) :
    List.Forall₂ (fun test w => test w = true) (openPattern words) words := by
  rcases List.eq_nil_or_concat' words with rfl | ⟨front, p, rfl⟩
  · exact absurd rfl hne
  · exact forall₂_openPattern.mpr ⟨p, rfl, List.prefix_refl p⟩

theorem embeddedTerms_single : ∀ term ∈ kEmbeddedTerms, term.splitOn space = [term] := by decide

theorem forall₂_termPattern_self (term : Bytes) :
    List.Forall₂ (fun test w => test w = true) (termPattern term) (term.splitOn space) := by
  have hne : term.splitOn space ≠ [] := List.splitOn_ne_nil space term
  rw [termPattern]
  split_ifs with hascii hshort hembedded
  · cases hwords : term.splitOn space with
    | nil => exact absurd hwords hne
    | cons w ws =>
      cases ws with
      | nil => simp [contains_iff]
      | cons v ws =>
        have hlast := forall₂_openPattern_self (List.cons_ne_nil v ws)
        exact .cons (decide_eq_true (List.suffix_refl w)) hlast
  · exact forall₂_closedPattern.mpr rfl
  · rw [embeddedTerms_single term (List.contains_iff_mem.mp hembedded)]
    simp [contains_iff]
  · exact forall₂_openPattern_self hne

/-- A term spelled out in some field is found in the text of all fields. -/
theorem containsSearchTerm_of_spelled (hterm : WellFormedTerm term) {fields : List Bytes}
    {field : Bytes} (hfield : field ∈ fields) (h : SpelledIn term field) :
    containsSearchTerm (accumulatedText fields) term = true := by
  rw [containsSearchTerm_iff hterm, searchWords_accumulatedText]
  obtain ⟨front, back, rfl⟩ := List.append_of_mem hfield
  refine ⟨term.splitOn space, h.trans ?_, forall₂_termPattern_self term⟩
  exact ⟨front.flatMap fieldWords, back.flatMap fieldWords, by simp⟩

end Spelled

set_option maxRecDepth 2000 in
/-- Each term of the dictionaries is spelled as the names are normalised, so none is idle. -/
theorem terms_spelled : ∀ terms ∈ [kExplicitUpperOnlyTerms, kLowerBodyBlockers, kUpperBodyTerms,
    kLowerBodyTerms], ∀ term ∈ terms, SpelledIn term term := by
  simp only [List.forall_mem_cons, List.not_mem_nil, false_imp_iff, implies_true, and_true]
  exact ⟨by decide, by decide, by decide, by decide⟩

/-! ## Dictionaries without their text -/

set_option maxRecDepth 2000 in
theorem lowerTerms_wellFormed : ∀ term ∈ kLowerBodyTerms, WellFormedTerm term := by decide

set_option maxRecDepth 2000 in
theorem lowerTerms_length : ∀ term ∈ kLowerBodyTerms,
    (termPattern term).length = 1 ∨ (termPattern term).length = 2 := by decide

theorem blockerTerms_length : ∀ term ∈ kLowerBodyBlockers,
    (termPattern term).length = 1 ∨ (termPattern term).length = 2 := by decide

theorem upperTerms_length : ∀ term ∈ kUpperBodyTerms,
    (termPattern term).length = 1 ∨ (termPattern term).length = 2 := by decide

variable (game : GameData) (armor : TESObjectARMO)

/-- A term of the dictionary is in some field alone or in the two words where fields meet. -/
def FieldsMatch (terms : List Bytes) : Prop :=
  (∃ field ∈ classificationFields game armor,
    containsAnySearchTerm (buildSearchTextPart field) terms = true) ∨
  ∃ joint ∈ classificationJoints game armor,
    containsAnySearchTerm (twoWords joint.1 joint.2) terms = true

theorem classificationText_iff {terms : List Bytes} (hwell : ∀ term ∈ terms, WellFormedTerm term)
    (hlength : ∀ term ∈ terms, (termPattern term).length = 1 ∨ (termPattern term).length = 2) :
    containsAnySearchTerm (buildArmorClassificationText game armor) terms = true ↔
      FieldsMatch game armor terms := by
  rw [buildArmorClassificationText_eq, accumulatedText_iff hwell hlength, FieldsMatch,
    classificationJoints]
  simp only [Prod.exists]

theorem isLikelyUpperOnlyBodyArmor_iff_fields :
    isLikelyUpperOnlyBodyArmor game armor = true ↔
      hasSlot (getArmorDisplaySlotMask armor) bodySlotMask = true ∧
        (FieldsMatch game armor kExplicitUpperOnlyTerms ∨
          ¬FieldsMatch game armor kLowerBodyBlockers ∧ FieldsMatch game armor kUpperBodyTerms) := by
  rw [← classificationText_iff game armor explicitTerms_wellFormed explicitTerms_length,
    ← classificationText_iff game armor blockerTerms_wellFormed blockerTerms_length,
    ← classificationText_iff game armor upperTerms_wellFormed upperTerms_length]
  simp only [isLikelyUpperOnlyBodyArmor, isUpperOnlyText]
  split_ifs with hslot hexplicit hblocker <;> simp_all

/-- Both name classifiers are decided by the fields one at a time and where two of them meet. -/
theorem verdicts_by_fields :
    (isLikelyUpperOnlyBodyArmor game armor = true ↔
      hasSlot (getArmorDisplaySlotMask armor) bodySlotMask = true ∧
        (FieldsMatch game armor kExplicitUpperOnlyTerms ∨
          ¬FieldsMatch game armor kLowerBodyBlockers ∧ FieldsMatch game armor kUpperBodyTerms)) ∧
    (isLikelyGenitalConcealingPelvisArmor game armor = true ↔
      hasSlot (getArmorDisplaySlotMask armor) pelvisPrimarySlotMask = true ∧
        (hasKeywordEditorID game armor kSosUnderwear = true ∨
          hasKeywordEditorID game armor kTngUnderwear = true ∨
          FieldsMatch game armor kLowerBodyTerms)) := by
  refine ⟨isLikelyUpperOnlyBodyArmor_iff_fields game armor, ?_⟩
  rw [← classificationText_iff game armor lowerTerms_wellFormed lowerTerms_length]
  cases hslot : hasSlot (getArmorDisplaySlotMask armor) pelvisPrimarySlotMask with
  | false => simp [isLikelyGenitalConcealingPelvisArmor, hslot]
  | true =>
    simp only [isLikelyGenitalConcealingPelvisArmor, hslot, Bool.not_true, Bool.false_eq_true,
      ↓reduceIte, true_and]
    rw [← or_assoc, ← Bool.or_eq_true]
    split_ifs with hkeyword <;> simp [hkeyword]

/-! ## Armor that says what it is -/

section Named

variable {game armor} {term field : Bytes} (hfield : field ∈ classificationFields game armor)
  (hspelled : SpelledIn term field)
include hfield hspelled

theorem containsAnySearchTerm_of_spelled {terms : List Bytes} (hmem : term ∈ terms)
    (hwell : ∀ term ∈ terms, WellFormedTerm term) :
    containsAnySearchTerm (buildArmorClassificationText game armor) terms = true :=
  List.any_eq_true.mpr ⟨term, hmem, containsSearchTerm_of_spelled (hwell term hmem) hfield hspelled⟩

/-- A term spelled out in any one name decides, whatever the other names and the keywords say: an
explicit term for upper-only clothing, a lower-body term for a slot-49 garment, and a blocker
against upper-only clothing unless an explicit term is there. -/
theorem spelled_term_decides :
    (term ∈ kExplicitUpperOnlyTerms →
      isLikelyUpperOnlyBodyArmor game armor =
        hasSlot (getArmorDisplaySlotMask armor) bodySlotMask) ∧
    (term ∈ kLowerBodyTerms →
      isLikelyGenitalConcealingPelvisArmor game armor =
        hasSlot (getArmorDisplaySlotMask armor) pelvisPrimarySlotMask) ∧
    (term ∈ kLowerBodyBlockers →
      (isLikelyUpperOnlyBodyArmor game armor = true ↔
        hasSlot (getArmorDisplaySlotMask armor) bodySlotMask = true ∧
          FieldsMatch game armor kExplicitUpperOnlyTerms)) := by
  refine ⟨fun hmem => ?_, fun hmem => ?_, fun hmem => ?_⟩
  · have hfound := containsAnySearchTerm_of_spelled hfield hspelled hmem explicitTerms_wellFormed
    cases hslot : hasSlot (getArmorDisplaySlotMask armor) bodySlotMask <;>
      simp [isLikelyUpperOnlyBodyArmor, isUpperOnlyText, hslot, hfound]
  · have hfound := containsAnySearchTerm_of_spelled hfield hspelled hmem lowerTerms_wellFormed
    cases hslot : hasSlot (getArmorDisplaySlotMask armor) pelvisPrimarySlotMask <;>
      simp [isLikelyGenitalConcealingPelvisArmor, hslot, hfound]
  · have hfound := containsAnySearchTerm_of_spelled hfield hspelled hmem blockerTerms_wellFormed
    rw [classificationText_iff game armor blockerTerms_wellFormed blockerTerms_length] at hfound
    rw [isLikelyUpperOnlyBodyArmor_iff_fields]
    tauto

end Named

/-- A bikini top is one in any spelling. -/
theorem spelled_term_decides_bikini :
    isLikelyUpperOnlyBodyArmor bareGame (plainArmor 1 "Red-BIKINI_Top02" bodySlotMask) = true :=
  ((spelled_term_decides (by decide : stringView "Red-BIKINI_Top02" ∈ _)
    (by decide : SpelledIn (stringView "bikini top") _)).1 (by decide)).trans (by decide)

end FittingSchlongs.Armor
