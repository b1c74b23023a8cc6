import FittingSchlongs.Foundation.Boundaries
import FittingSchlongs.Text.SearchText

/-! # Dictionary lookups as occurrences at word boundaries

The padded searches of a lookup are occurrences of the term in the text without its padding.
An ASCII term begins at the start of a word; a short one also ends where a word does.
-/

namespace FittingSchlongs.Text
open Foundation.Boundaries

/-- What a lookup looks for: a term with a non-ASCII byte anywhere, another term at the start of
a word, up to the end of a word when it is short, and an embedded term anywhere. -/
def BoundaryMatch (text term : Bytes) : Prop :=
  if ∃ ch ∈ term, 0x80 ≤ ch then term <:+: text
  else
    (∃ i, OccursAt text term i ∧ StartsWord space text i ∧
      (4 ≤ term.length ∨ EndsWord space text (i + term.length))) ∨
    term ∈ kEmbeddedTerms ∧ term <:+: text

theorem containsNonAscii_iff {value : Bytes} :
    containsNonAscii value = true ↔ ∃ ch ∈ value, 0x80 ≤ ch := by
  simp [containsNonAscii]

theorem kEmbeddedTerms_long : ∀ term ∈ kEmbeddedTerms, 4 ≤ term.length := by decide

section Lookup

variable {text term : Bytes}

theorem containsSearchTerm_nonAscii_iff (hascii : containsNonAscii term = true) :
    containsSearchTerm text term = true ↔ term <:+: text := by
  have hne : term ≠ [] := by
    rintro rfl
    exact Bool.false_ne_true hascii
  by_cases htext : text = []
  · simp [containsSearchTerm, htext, hne]
  · simp [containsSearchTerm, htext, hne, hascii, contains_iff]

theorem containsSearchTerm_short_iff (htext : text ≠ []) (hne : term ≠ [])
    (hascii : containsNonAscii term = false) (hshort : term.length < 4) :
    containsSearchTerm text term = true ↔
      space :: (term ++ [space]) <:+: space :: (text ++ [space]) := by
  simp [containsSearchTerm, htext, hne, hascii, hshort, contains_iff]

/-- In a lookup of a longer ASCII term the second padded search covers the first. -/
theorem containsSearchTerm_long_iff (htext : text ≠ []) (hne : term ≠ [])
    (hascii : containsNonAscii term = false) (hlong : 4 ≤ term.length) :
    containsSearchTerm text term = true ↔
      space :: term <:+: space :: (text ++ [space]) ∨ term ∈ kEmbeddedTerms ∧ term <:+: text := by
  have hcovers : space :: (term ++ [space]) <:+: space :: (text ++ [space]) →
      space :: term <:+: space :: (text ++ [space]) :=
    fun h => (List.prefix_append (space :: term) [space]).isInfix.trans h
  have hlength : ¬term.length < 4 := by omega
  simp [containsSearchTerm, htext, hne, hascii, hlength, contains_iff]
  tauto

theorem containsSearchTerm_iff_boundaryMatch (htext : text ≠ []) (hne : term ≠ [])
    (hlast : term.getLast? ≠ some space) :
    containsSearchTerm text term = true ↔ BoundaryMatch text term := by
  rw [BoundaryMatch]
  by_cases hascii : containsNonAscii term = true
  · rw [if_pos (containsNonAscii_iff.mp hascii), containsSearchTerm_nonAscii_iff hascii]
  · have hbytes : ¬∃ ch ∈ term, 0x80 ≤ ch := fun h => hascii (containsNonAscii_iff.mpr h)
    have hfalse : containsNonAscii term = false := by simpa using hascii
    rw [if_neg hbytes]
    by_cases hlong : 4 ≤ term.length
    · rw [containsSearchTerm_long_iff htext hne hfalse hlong, opened_infix_iff hne hlast]
      simp only [hlong, true_or, and_true]
    · have hembedded : ¬term ∈ kEmbeddedTerms := fun h => hlong (kEmbeddedTerms_long term h)
      rw [containsSearchTerm_short_iff htext hne hfalse (Nat.lt_of_not_le hlong),
        closed_infix_iff]
      simp only [hlong, hembedded, false_or, false_and, or_false]

/-- A lookup meets its definition by word boundaries, for every text and every term that does
not end in a space. -/
theorem containsSearchTerm_boundary_iff (htext : text ≠ []) (hne : term ≠ [])
    (hlast : term.getLast? ≠ some space) :
    containsSearchTerm text term = true ↔
      if ∃ ch ∈ term, 0x80 ≤ ch then term <:+: text
      else
        (∃ i, OccursAt text term i ∧ StartsWord space text i ∧
          (4 ≤ term.length ∨ EndsWord space text (i + term.length))) ∨
        term ∈ kEmbeddedTerms ∧ term <:+: text :=
  containsSearchTerm_iff_boundaryMatch htext hne hlast

/-- "bra" is found as a word between two others. -/
theorem containsSearchTerm_boundary_iff_bra :
    containsSearchTerm (stringView "lace bra 2") (stringView "bra") = true := by
  rw [containsSearchTerm_boundary_iff (by decide) (by decide) (by decide), if_neg (by decide)]
  exact Or.inl ⟨5, by decide, by decide, by decide⟩

end Lookup

end FittingSchlongs.Text
