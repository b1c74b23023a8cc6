import FittingSchlongs.Text.Dictionary
import FittingSchlongs.Text.Matching

/-! # Lookups in the accumulated text and in its fields

A term of one word is found in the accumulated text exactly when it is found in one of
the fields on its own. A term of two words can also be formed where two fields meet.
-/

namespace FittingSchlongs.Text
open Foundation.SeparatedWords Foundation.Occurrence

/-- The text accumulated over some fields. -/
def accumulatedText (fields : List Bytes) : Bytes := fields.foldl appendSearchText []

theorem searchWords_accumulatedText (fields : List Bytes) :
    searchWords (accumulatedText fields) = fields.flatMap fieldWords := by
  rw [accumulatedText, searchWords_foldl, searchWords_nil, List.nil_append]

/-! ## Terms of one word -/

section OneWord

variable {term : Bytes}

theorem wellFormedTerm_of_spaceless (hne : term ≠ []) (hspace : space ∉ term) :
    WellFormedTerm term := by
  rw [WellFormedTerm, List.splitOn_eq_singleton hspace, List.mem_singleton]
  exact fun h => hne h.symm

theorem termPattern_of_spaceless (hspace : space ∉ term) :
    ∃ test, termPattern term = [test] := by
  simp only [termPattern, List.splitOn_eq_singleton hspace]
  split_ifs
  · exact ⟨_, rfl⟩
  · exact ⟨_, rfl⟩
  · exact ⟨_, rfl⟩
  · exact ⟨_, rfl⟩

theorem containsSearchTerm_word_iff (hne : term ≠ []) (hspace : space ∉ term) :
    ∃ test : Bytes → Bool, ∀ text,
      containsSearchTerm text term = true ↔ ∃ w ∈ searchWords text, test w = true := by
  obtain ⟨test, htest⟩ := termPattern_of_spaceless hspace
  refine ⟨test, fun text => ?_⟩
  rw [containsSearchTerm_iff (wellFormedTerm_of_spaceless hne hspace), htest, occurs_singleton]

theorem containsSearchTerm_accumulatedText_iff (hne : term ≠ []) (hspace : space ∉ term)
    (fields : List Bytes) :
    containsSearchTerm (accumulatedText fields) term = true ↔
      ∃ field ∈ fields, containsSearchTerm (buildSearchTextPart field) term = true := by
  obtain ⟨test, hfound⟩ := containsSearchTerm_word_iff hne hspace
  rw [hfound, searchWords_accumulatedText]
  simp only [hfound, List.mem_flatMap]
  constructor
  · rintro ⟨w, ⟨field, hfield, hw⟩, hpass⟩
    exact ⟨field, hfield, w, hw, hpass⟩
  · rintro ⟨field, hfield, w, hw, hpass⟩
    exact ⟨w, ⟨field, hfield, hw⟩, hpass⟩

/-- A term without a space is found in the accumulated text exactly when it is found in some
field on its own; fields in which it is not found may come, go and move. -/
theorem containsSearchTerm_fields_iff (hne : term ≠ []) (hspace : space ∉ term)
    (fields : List Bytes) :
    (containsSearchTerm (fields.foldl appendSearchText []) term = true ↔
      ∃ field ∈ fields, containsSearchTerm (buildSearchTextPart field) term = true) ∧
    ∀ others : List Bytes,
      (∀ field, containsSearchTerm (buildSearchTextPart field) term = true →
        (field ∈ fields ↔ field ∈ others)) →
      containsSearchTerm (others.foldl appendSearchText []) term =
        containsSearchTerm (fields.foldl appendSearchText []) term := by
  have hlocal := containsSearchTerm_accumulatedText_iff hne hspace
  refine ⟨hlocal fields, fun others hsame => ?_⟩
  have hothers := hlocal others
  rw [accumulatedText] at hothers
  rw [Bool.eq_iff_iff, hothers, ← accumulatedText, hlocal fields]
  apply exists_congr
  intro field
  apply and_congr_left
  exact fun hfound => (hsame field hfound).symm

/-- "Dress" is found in a name whatever the keywords around it are. -/
theorem containsSearchTerm_fields_iff_dress :
    containsSearchTerm ([stringView "SOS_Revealing", stringView "RedDress02"].foldl
      appendSearchText []) (stringView "dress") = true :=
  (containsSearchTerm_fields_iff (by decide) (by decide) _).1.mpr
    ⟨stringView "RedDress02", by decide, by decide⟩

end OneWord

/-! ## Dictionaries -/

theorem explicitTerms_wellFormed : ∀ term ∈ kExplicitUpperOnlyTerms, WellFormedTerm term := by decide

theorem blockerTerms_wellFormed : ∀ term ∈ kLowerBodyBlockers, WellFormedTerm term := by decide

theorem upperTerms_wellFormed : ∀ term ∈ kUpperBodyTerms, WellFormedTerm term := by decide

theorem explicitTerms_length : ∀ term ∈ kExplicitUpperOnlyTerms,
    (termPattern term).length = 1 ∨ (termPattern term).length = 2 := by decide

theorem containsAnySearchTerm_iff_occurs {terms : List Bytes}
    (hterms : ∀ term ∈ terms, WellFormedTerm term) {text : Bytes} :
    containsAnySearchTerm text terms = true ↔
      ∃ term ∈ terms, Occurs (termPattern term) (searchWords text) := by
  rw [containsAnySearchTerm, List.any_eq_true]
  apply exists_congr
  intro term
  apply and_congr_right
  exact fun hterm => containsSearchTerm_iff (hterms term hterm)

theorem containsAnySearchTerm_of_field {terms : List Bytes}
    (hterms : ∀ term ∈ terms, WellFormedTerm term) {fields : List Bytes} {field : Bytes}
    (hfield : field ∈ fields)
    (h : containsAnySearchTerm (buildSearchTextPart field) terms = true) :
    containsAnySearchTerm (accumulatedText fields) terms = true := by
  rw [containsAnySearchTerm_iff_occurs hterms] at h ⊢
  obtain ⟨term, hterm, hoccurs⟩ := h
  refine ⟨term, hterm, hoccurs.mono ?_⟩
  obtain ⟨front, back, rfl⟩ := List.append_of_mem hfield
  rw [searchWords_accumulatedText]
  exact ⟨front.flatMap fieldWords, back.flatMap fieldWords, by simp [fieldWords]⟩

/-! ## Terms of two words -/

section TwoWords

/-- The words on the two sides of each place where a field with words meets the next one. -/
def fieldJoints (fields : List Bytes) : List (Bytes × Bytes) := joints (fields.map fieldWords)

def twoWords (u v : Bytes) : Bytes := u ++ space :: v

theorem fieldWords_separated (value : Bytes) : Separated space (fieldWords value) := by
  intro w hw
  rw [fieldWords, searchWords] at hw
  split_ifs at hw with hempty
  · exact absurd hw List.not_mem_nil
  · exact splitOn_separated _ w hw

theorem searchWords_twoWords {fields : List Bytes} {u v : Bytes} (h : (u, v) ∈ fieldJoints fields) :
    searchWords (twoWords u v) = [u, v] := by
  have hmem := mem_of_mem_joints h
  rw [← List.flatMap_def, List.mem_flatMap, List.mem_flatMap] at hmem
  obtain ⟨⟨f, -, hu⟩, g, -, hv⟩ := hmem
  have hne : twoWords u v ≠ [] := by simp [twoWords]
  rw [searchWords_of_ne_nil hne, twoWords, List.splitOn_append_cons_self,
    List.splitOn_eq_singleton (fieldWords_separated f u hu),
    List.splitOn_eq_singleton (fieldWords_separated g v hv)]
  rfl

/-- A text matches a term of one word or two inside one field or in the two words at a joint. -/
theorem accumulatedText_iff {terms : List Bytes} (hwell : ∀ term ∈ terms, WellFormedTerm term)
    (hlength : ∀ term ∈ terms, (termPattern term).length = 1 ∨ (termPattern term).length = 2)
    (fields : List Bytes) :
    containsAnySearchTerm (accumulatedText fields) terms = true ↔
      (∃ field ∈ fields, containsAnySearchTerm (buildSearchTextPart field) terms = true) ∨
      ∃ u v, (u, v) ∈ fieldJoints fields ∧ containsAnySearchTerm (twoWords u v) terms = true := by
  have hterm : ∀ term ∈ terms,
      Occurs (termPattern term) (fields.flatMap fieldWords) ↔
        (∃ field ∈ fields, Occurs (termPattern term) (fieldWords field)) ∨
          ∃ u v, (u, v) ∈ fieldJoints fields ∧ Occurs (termPattern term) [u, v] := by
    intro term hterm
    rw [List.flatMap_def, occurs_flatten_iff (hlength term hterm), fieldJoints]
    simp only [List.mem_map, exists_exists_and_eq_and]
  simp only [containsAnySearchTerm_iff_occurs hwell, searchWords_accumulatedText]
  constructor
  · rintro ⟨term, hmem, hoccurs⟩
    rcases (hterm term hmem).mp hoccurs with ⟨field, hfield, h⟩ | ⟨u, v, hjoint, h⟩
    · exact Or.inl ⟨field, hfield, term, hmem, h⟩
    · exact Or.inr ⟨u, v, hjoint, term, hmem, by rwa [searchWords_twoWords hjoint]⟩
  · rintro (⟨field, hfield, term, hmem, h⟩ | ⟨u, v, hjoint, term, hmem, h⟩)
    · exact ⟨term, hmem, (hterm term hmem).mpr (Or.inl ⟨field, hfield, h⟩)⟩
    · rw [searchWords_twoWords hjoint] at h
      exact ⟨term, hmem, (hterm term hmem).mpr (Or.inr ⟨u, v, hjoint, h⟩)⟩

theorem explicit_accumulatedText_iff (fields : List Bytes) :
    containsAnySearchTerm (accumulatedText fields) kExplicitUpperOnlyTerms = true ↔
      (∃ field ∈ fields,
        containsAnySearchTerm (buildSearchTextPart field) kExplicitUpperOnlyTerms = true) ∨
      ∃ u v, (u, v) ∈ fieldJoints fields ∧
        containsAnySearchTerm (twoWords u v) kExplicitUpperOnlyTerms = true :=
  accumulatedText_iff explicitTerms_wellFormed explicitTerms_length fields

end TwoWords

end FittingSchlongs.Text
