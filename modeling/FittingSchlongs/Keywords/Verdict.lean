import FittingSchlongs.Keywords.Managed
import FittingSchlongs.Text.Fields

/-! # The classification text under a rewritten keyword array

The editor IDs of the managed keywords are themselves part of the classified text.
None of their words is a word of a dictionary term, so appending them changes no
match and dropping them loses none; but a two-word term can appear where a dropped
keyword had kept its words apart.
-/

namespace FittingSchlongs.Keywords
open Armor Text Foundation.ListUpdates Foundation.Occurrence

/-! ## The dictionaries of the body classifier -/

def bodyDictionaries : List (List Bytes) :=
  [kExplicitUpperOnlyTerms, kLowerBodyBlockers, kUpperBodyTerms]

theorem explicit_mem : kExplicitUpperOnlyTerms ∈ bodyDictionaries := List.mem_cons_self

theorem blockers_mem : kLowerBodyBlockers ∈ bodyDictionaries :=
  List.mem_cons_of_mem _ List.mem_cons_self

theorem upper_mem : kUpperBodyTerms ∈ bodyDictionaries :=
  List.mem_cons_of_mem _ (List.mem_cons_of_mem _ List.mem_cons_self)

theorem bodyTerms_wellFormed :
    ∀ terms ∈ bodyDictionaries, ∀ term ∈ terms, WellFormedTerm term := by
  simp only [bodyDictionaries, List.forall_mem_cons]
  exact ⟨explicitTerms_wellFormed, blockerTerms_wellFormed, upperTerms_wellFormed, by simp⟩

theorem managedWords_alien : ∀ terms ∈ bodyDictionaries, ∀ term ∈ terms,
    ∀ name ∈ managedEditorIDs, ∀ w ∈ fieldWords name, ∀ test ∈ termPattern term,
      test w = false := by decide +kernel

theorem upperTerms_single : ∀ term ∈ kUpperBodyTerms,
    (termPattern term).length = 1 ∨ term ∈ kExplicitUpperOnlyTerms := by decide

theorem containsAnySearchTerm_iff {terms : List Bytes} (hterms : terms ∈ bodyDictionaries)
    {text : Bytes} :
    containsAnySearchTerm text terms = true ↔
      ∃ term ∈ terms, Occurs (termPattern term) (searchWords text) :=
  containsAnySearchTerm_iff_occurs (bodyTerms_wellFormed terms hterms)

/-! ## The text of an armor with another array -/

section Text

variable (game : GameData) (armor : TESObjectARMO)

/-- The words of the armor's editor ID and display name. -/
def nameWords : List Bytes :=
  fieldWords (getEditorID game (some armor.toTESForm)) ++ fieldWords (getDisplayName game armor)

/-- The words a keyword contributes. -/
def keywordWords (keyword : Option BGSKeyword) : List Bytes := fieldWords (getEditorID game keyword)

/-- A dictionary matches the text of the armor with another keyword array. -/
def textHas (terms : List Bytes) (array : List (Option BGSKeyword)) : Bool :=
  containsAnySearchTerm (buildArmorClassificationText game (withKeywords armor array)) terms

theorem searchWords_classificationText (array : List (Option BGSKeyword)) :
    searchWords (buildArmorClassificationText game (withKeywords armor array)) =
      nameWords game armor ++ array.flatMap (keywordWords game) := by
  rw [buildArmorClassificationText, searchWords_foldl, searchWords_nil, List.nil_append,
    classificationFields, List.flatMap_cons, List.flatMap_cons, List.flatMap_map, nameWords,
    List.append_assoc]
  rfl

variable {game armor}

theorem textHas_iff {terms : List Bytes} (hterms : terms ∈ bodyDictionaries)
    {array : List (Option BGSKeyword)} :
    textHas game armor terms array = true ↔
      ∃ term ∈ terms,
        Occurs (termPattern term) (nameWords game armor ++ array.flatMap (keywordWords game)) := by
  rw [textHas, containsAnySearchTerm_iff hterms, searchWords_classificationText]

theorem keywordWords_alien (hnamed : LookupsNamed game) {names : List Bytes}
    (hsub : names ⊆ managedEditorIDs) {terms : List Bytes} (hterms : terms ∈ bodyDictionaries)
    {term : Bytes} (hterm : term ∈ terms) {entry : Option BGSKeyword} (hsome : entry.isSome = true)
    (hentry : entry ∈ names.map game.lookupKeyword) :
    ∀ w ∈ keywordWords game entry, Alien (termPattern term) w := by
  obtain ⟨keyword, rfl⟩ := Option.isSome_iff_exists.mp hsome
  intro w hw
  exact managedWords_alien terms hterms term hterm _ (lookup_mem_managed hnamed hsub hentry) w hw

theorem textHas_without (hnamed : LookupsNamed game) {names : List Bytes}
    (hsub : names ⊆ managedEditorIDs) {terms : List Bytes} (hterms : terms ∈ bodyDictionaries)
    {array : List (Option BGSKeyword)} (h : textHas game armor terms array = true) :
    textHas game armor terms (without (names.map game.lookupKeyword) array) = true := by
  rw [textHas_iff hterms] at h ⊢
  obtain ⟨term, hterm, hoccurs⟩ := h
  refine ⟨term, hterm, hoccurs.filter_blocks (termPattern_ne_nil term) ?_⟩
  intro entry _ hdropped
  simp only [Bool.not_eq_false', Bool.and_eq_true, List.contains_iff_mem] at hdropped
  exact keywordWords_alien hnamed hsub hterms hterm hdropped.1 hdropped.2

theorem textHas_foldl_appendEntry (hnamed : LookupsNamed game) {names : List Bytes}
    (hsub : names ⊆ managedEditorIDs) {terms : List Bytes} (hterms : terms ∈ bodyDictionaries)
    (array : List (Option BGSKeyword)) :
    textHas game armor terms ((names.map game.lookupKeyword).foldl appendEntry array) =
      textHas game armor terms array := by
  obtain ⟨added, heq, hadded⟩ := foldl_appendEntry_eq array (names.map game.lookupKeyword)
  rw [heq, Bool.eq_iff_iff, textHas_iff hterms, textHas_iff hterms, List.flatMap_append,
    ← List.append_assoc]
  apply exists_congr
  intro term
  apply and_congr_right
  intro hterm
  apply occurs_append_aliens (termPattern_ne_nil term)
  intro w hw
  obtain ⟨entry, hentry, hw⟩ := List.mem_flatMap.mp hw
  exact keywordWords_alien hnamed hsub hterms hterm (hadded entry hentry).2 (hadded entry hentry).1
    w hw

theorem upper_of_without {os array : List (Option BGSKeyword)}
    (h : textHas game armor kUpperBodyTerms (without os array) = true) :
    textHas game armor kUpperBodyTerms array = true ∨
      textHas game armor kExplicitUpperOnlyTerms (without os array) = true := by
  rw [textHas_iff upper_mem] at h
  rw [textHas_iff upper_mem, textHas_iff explicit_mem]
  obtain ⟨term, hterm, hoccurs⟩ := h
  rcases upperTerms_single term hterm with hsingle | hmem
  · left
    refine ⟨term, hterm, ?_⟩
    obtain ⟨test, htest⟩ := List.length_eq_one_iff.mp hsingle
    rw [htest, occurs_singleton] at hoccurs ⊢
    obtain ⟨w, hw, hpass⟩ := hoccurs
    refine ⟨w, ?_, hpass⟩
    rw [List.mem_append, List.mem_flatMap] at hw ⊢
    cases hw with
    | inl hname => exact Or.inl hname
    | inr hkeyword =>
      obtain ⟨entry, hentry, hw⟩ := hkeyword
      exact Or.inr ⟨entry, without_subset os array hentry, hw⟩
  · exact Or.inr ⟨term, hmem, hoccurs⟩

/-! ## The verdict after a rewrite -/

theorem isUpperOnlyText_eq (array : List (Option BGSKeyword)) :
    isUpperOnlyText (buildArmorClassificationText game (withKeywords armor array)) =
      (textHas game armor kExplicitUpperOnlyTerms array ||
        (!textHas game armor kLowerBodyBlockers array &&
          textHas game armor kUpperBodyTerms array)) := by
  simp only [isUpperOnlyText, textHas]
  split_ifs with hexplicit hblocker <;> simp_all

theorem isUpperOnlyText_foldl_appendEntry (hnamed : LookupsNamed game) {names : List Bytes}
    (hsub : names ⊆ managedEditorIDs) (array : List (Option BGSKeyword)) :
    isUpperOnlyText (buildArmorClassificationText game (withKeywords armor
        ((names.map game.lookupKeyword).foldl appendEntry array))) =
      isUpperOnlyText (buildArmorClassificationText game (withKeywords armor array)) := by
  rw [isUpperOnlyText_eq, isUpperOnlyText_eq, textHas_foldl_appendEntry hnamed hsub explicit_mem,
    textHas_foldl_appendEntry hnamed hsub blockers_mem,
    textHas_foldl_appendEntry hnamed hsub upper_mem]

/-- An upper-only verdict survives dropped keywords unless a blocker comes together. -/
theorem upperOnly_without_iff (hnamed : LookupsNamed game) {names : List Bytes}
    (hsub : names ⊆ managedEditorIDs) {array : List (Option BGSKeyword)}
    (h : isUpperOnlyText (buildArmorClassificationText game (withKeywords armor array)) = true) :
    isUpperOnlyText (buildArmorClassificationText game (withKeywords armor
        (without (names.map game.lookupKeyword) array))) = true ↔
      textHas game armor kExplicitUpperOnlyTerms
          (without (names.map game.lookupKeyword) array) = true ∨
        textHas game armor kLowerBodyBlockers
          (without (names.map game.lookupKeyword) array) = false := by
  rw [isUpperOnlyText_eq, Bool.or_eq_true, Bool.and_eq_true, Bool.not_eq_true'] at h ⊢
  cases h with
  | inl h => simp [textHas_without hnamed hsub explicit_mem h]
  | inr h => simp [textHas_without hnamed hsub upper_mem h.2]

/-- Dropped keywords turn a lower verdict into an upper-only one exactly when an explicit
term comes together. -/
theorem lower_without_iff (hnamed : LookupsNamed game) {names : List Bytes}
    (hsub : names ⊆ managedEditorIDs) {array : List (Option BGSKeyword)}
    (h : isUpperOnlyText (buildArmorClassificationText game (withKeywords armor array)) = false) :
    isUpperOnlyText (buildArmorClassificationText game (withKeywords armor
        (without (names.map game.lookupKeyword) array))) = true ↔
      textHas game armor kExplicitUpperOnlyTerms
        (without (names.map game.lookupKeyword) array) = true := by
  rw [← Bool.not_eq_true, isUpperOnlyText_eq, Bool.or_eq_true, Bool.and_eq_true,
    Bool.not_eq_true', not_or, not_and] at h
  rw [isUpperOnlyText_eq, Bool.or_eq_true, Bool.and_eq_true, Bool.not_eq_true']
  constructor
  · rintro (hexplicit | ⟨hfree, hupper⟩)
    · exact hexplicit
    · rcases upper_of_without hupper with hbefore | hexplicit
      · have hblocked : textHas game armor kLowerBodyBlockers array = true := by
          by_contra hfree'
          exact h.2 (by simpa using hfree') hbefore
        rw [textHas_without hnamed hsub blockers_mem hblocked] at hfree
        exact absurd hfree.symm Bool.false_ne_true
      · exact hexplicit
  · exact Or.inl

end Text

end FittingSchlongs.Keywords
