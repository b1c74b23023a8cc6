import FittingSchlongs.Foundation.Occurrence
import FittingSchlongs.Text.SearchText

/-! # Dictionary lookups as runs of words

The accumulated text is the list of the words of its fields, and a term is found
in it exactly when consecutive words pass the term's word tests. A lookup can
then be compared between texts that share their fields.
-/

namespace FittingSchlongs.Text
open Foundation.SeparatedWords Foundation.Occurrence

/-- The words of an accumulated text; an empty text has none. -/
def searchWords (text : Bytes) : List Bytes :=
  if text.isEmpty then [] else text.splitOn space

def fieldWords (value : Bytes) : List Bytes := searchWords (buildSearchTextPart value)

@[simp] theorem searchWords_nil : searchWords [] = [] := rfl

theorem searchWords_of_ne_nil {text : Bytes} (h : text ≠ []) :
    searchWords text = text.splitOn space := by
  simp [searchWords, h]

theorem splitOn_separated (text : Bytes) : Separated space (text.splitOn space) := by
  intro w hw
  induction text generalizing w with
  | nil => simp_all
  | cons ch text ih =>
    rw [List.splitOn_cons_eq_if_modifyHead] at hw
    split at hw
    · rcases List.mem_cons.mp hw with rfl | hw
      · exact List.not_mem_nil
      · exact ih w hw
    · rename_i hch
      have hne : space ≠ ch := fun h => hch (by simp [h])
      cases hsplit : text.splitOn space with
      | nil => exact absurd hsplit (List.splitOn_ne_nil space text)
      | cons v vs =>
        rw [hsplit] at hw ih
        rcases List.mem_cons.mp hw with rfl | hw
        · simpa [hne] using ih v List.mem_cons_self
        · exact ih w (List.mem_cons_of_mem v hw)

/-! ## The words of the accumulated text -/

theorem searchWords_appendSearchText (output value : Bytes) :
    searchWords (appendSearchText output value) = searchWords output ++ fieldWords value := by
  simp only [appendSearchText, fieldWords]
  cases htext : buildSearchTextPart value with
  | nil => simp
  | cons ch text =>
    cases output with
    | nil => simp
    | cons out output =>
      have hne : (out :: output) ++ space :: (ch :: text) ≠ [] := by simp
      simp only [List.isEmpty_cons, Bool.false_eq_true, ↓reduceIte, List.append_assoc,
        List.singleton_append]
      rw [searchWords_of_ne_nil hne, List.splitOn_append_cons_self,
        searchWords_of_ne_nil (List.cons_ne_nil _ _), searchWords_of_ne_nil (List.cons_ne_nil _ _)]

theorem searchWords_foldl (fields : List Bytes) (output : Bytes) :
    searchWords (fields.foldl appendSearchText output) =
      searchWords output ++ fields.flatMap fieldWords := by
  induction fields generalizing output with
  | nil => simp
  | cons value fields ih =>
    rw [List.foldl_cons, ih, searchWords_appendSearchText, List.flatMap_cons, List.append_assoc]

/-! ## The word tests of a term -/

/-- Every word but the last is matched whole, the last one from its start. -/
def openPattern : List Bytes → List (Bytes → Bool)
  | [] => []
  | [w] => [fun u => decide (w <+: u)]
  | w :: ws => (fun u => u == w) :: openPattern ws

def closedPattern (words : List Bytes) : List (Bytes → Bool) := words.map (fun w u => u == w)

/-- The word tests by which `ContainsSearchTerm` finds a term. -/
def termPattern (term : Bytes) : List (Bytes → Bool) :=
  if containsNonAscii term then
    match term.splitOn space with
    | [] => []
    | [w] => [fun u => contains u w]
    | w :: ws => (fun u => decide (w <:+ u)) :: openPattern ws
  else if term.length < 4 then closedPattern (term.splitOn space)
  else if kEmbeddedTerms.contains term then [fun u => contains u term]
  else openPattern (term.splitOn space)

/-- Terms are words with single spaces between them and none at their ends. -/
def WellFormedTerm (term : Bytes) : Prop := [] ∉ term.splitOn space

instance (term : Bytes) : Decidable (WellFormedTerm term) :=
  inferInstanceAs (Decidable ([] ∉ term.splitOn space))

theorem forall₂_closedPattern {words run : List Bytes} :
    List.Forall₂ (fun test w => test w = true) (closedPattern words) run ↔ run = words := by
  induction words generalizing run with
  | nil => simp [closedPattern]
  | cons w words ih =>
    have htail : List.map (fun w u => u == w) words = closedPattern words := rfl
    rw [closedPattern, List.map_cons, List.forall₂_cons_left_iff, htail]
    simp only [ih]
    constructor
    · rintro ⟨u, run', hu, rfl, rfl⟩
      rw [eq_of_beq hu]
    · rintro rfl
      exact ⟨w, words, beq_self_eq_true w, rfl, rfl⟩

theorem forall₂_openPattern {words run : List Bytes} {p : Bytes} :
    List.Forall₂ (fun test w => test w = true) (openPattern (words ++ [p])) run ↔
      ∃ v, run = words ++ [v] ∧ p <+: v := by
  induction words generalizing run with
  | nil =>
    rw [List.nil_append, openPattern, List.forall₂_cons_left_iff]
    simp
    constructor
    · rintro ⟨v, hv, rfl⟩
      exact ⟨v, rfl, hv⟩
    · rintro ⟨v, rfl, hv⟩
      exact ⟨v, hv, rfl⟩
  | cons w words ih =>
    have hstep : openPattern (w :: (words ++ [p])) =
        (fun u => u == w) :: openPattern (words ++ [p]) := by
      cases words <;> rfl
    rw [List.cons_append, hstep, List.forall₂_cons_left_iff]
    simp only [ih]
    constructor
    · rintro ⟨u, run', hu, ⟨v, rfl, hv⟩, rfl⟩
      exact ⟨v, by rw [eq_of_beq hu, List.cons_append], hv⟩
    · rintro ⟨v, rfl, hv⟩
      exact ⟨w, words ++ [v], beq_self_eq_true w, ⟨v, rfl, hv⟩, rfl⟩

theorem occurs_closedPattern {words ws : List Bytes} :
    Occurs (closedPattern words) ws ↔ words <:+: ws := by
  simp only [Occurs, forall₂_closedPattern, exists_eq_right]

theorem occurs_openPattern {words ws : List Bytes} {p : Bytes} :
    Occurs (openPattern (words ++ [p])) ws ↔ ∃ v, words ++ [v] <:+: ws ∧ p <+: v := by
  simp only [Occurs, forall₂_openPattern]
  constructor
  · rintro ⟨run, hrun, v, rfl, hv⟩
    exact ⟨v, hrun, hv⟩
  · rintro ⟨v, hrun, hv⟩
    exact ⟨words ++ [v], hrun, v, rfl, hv⟩

/-! ## `ContainsSearchTerm` finds exactly the runs that pass the term's tests -/

section Lookup

variable {text term : Bytes}

theorem paddedText_eq (text : Bytes) :
    space :: (text ++ [space]) = enclose space (text.splitOn space) := by
  rw [enclose_eq_intercalate (List.splitOn_ne_nil space text), List.intercalate_splitOn]

theorem WellFormedTerm.ne_nil (hterm : WellFormedTerm term) : term ≠ [] := by
  rintro rfl
  exact hterm (by simp)

theorem WellFormedTerm.tidy (hterm : WellFormedTerm term) :
    term.head? ≠ some space ∧ term.getLast? ≠ some space := by
  have htidy := intercalate_tidy (splitOn_separated term) hterm
  rw [List.intercalate_splitOn] at htidy
  exact ⟨htidy.1, htidy.2.1⟩

theorem exists_words (hterm : WellFormedTerm term) :
    ∃ r p, term.splitOn space = r ++ [p] ∧ Separated space r ∧ space ∉ p ∧ p ≠ [] := by
  have hsep := splitOn_separated term
  rcases List.eq_nil_or_concat (term.splitOn space) with h | ⟨r, p, h⟩
  · exact absurd h (List.splitOn_ne_nil space term)
  · refine ⟨r, p, by simpa using h, fun w hw => hsep w (by simp [h, hw]), hsep p (by simp [h]), ?_⟩
    rintro rfl
    exact hterm (by simp [h])

theorem contains_paddedTerm :
    contains (space :: (text ++ [space])) (space :: (term ++ [space])) = true ↔
      Occurs (closedPattern (term.splitOn space)) (text.splitOn space) := by
  rw [contains_iff, paddedText_eq, paddedText_eq,
    infix_closed_iff (splitOn_separated term) (splitOn_separated text), occurs_closedPattern]

theorem contains_prefixTerm (hterm : WellFormedTerm term) :
    contains (space :: (text ++ [space])) (space :: term) = true ↔
      Occurs (openPattern (term.splitOn space)) (text.splitOn space) := by
  obtain ⟨r, p, hsplit, hr, hp, hne⟩ := exists_words hterm
  have hjoin : space :: term = enclose space r ++ p := by
    rw [← cons_intercalate_concat, ← hsplit, List.intercalate_splitOn]
  rw [contains_iff, paddedText_eq, hjoin,
    infix_open_iff hr (splitOn_separated text) hp hne, hsplit, occurs_openPattern]

theorem contains_inner (hne : term ≠ []) (hspace : space ∉ term) :
    contains text term = true ↔ Occurs [fun u => contains u term] (text.splitOn space) := by
  have hhead : term.head? ≠ some space := fun h => hspace (List.mem_of_mem_head? h)
  have hlast : term.getLast? ≠ some space := fun h => hspace (List.mem_of_getLast? h)
  have htext := infix_enclose_iff (List.splitOn_ne_nil space text) hhead hlast hne
  rw [List.intercalate_splitOn] at htext
  simp only [occurs_singleton, contains_iff]
  rw [htext, infix_inner_iff hspace hne]

theorem contains_crossing {w : Bytes} {ws : List Bytes} (hterm : WellFormedTerm term)
    (hsplit : term.splitOn space = w :: ws) (hws : ws ≠ []) :
    contains text term = true ↔
      Occurs ((fun u => decide (w <:+ u)) :: openPattern ws) (text.splitOn space) := by
  have hsep := splitOn_separated term
  rw [hsplit] at hsep
  obtain ⟨r, p, rfl⟩ : ∃ r p, ws = r ++ [p] := by
    rcases List.eq_nil_or_concat ws with h | ⟨r, p, h⟩
    · exact absurd h hws
    · exact ⟨r, p, by simpa using h⟩
  have hw : w ≠ [] := by rintro rfl; exact hterm (by simp [hsplit])
  have hp : p ≠ [] := by rintro rfl; exact hterm (by simp [hsplit])
  have hwsep : space ∉ w := hsep w List.mem_cons_self
  have hpsep : space ∉ p := hsep p (by simp)
  have hjoin : term = w ++ enclose space r ++ p := by
    rw [List.append_assoc, ← cons_intercalate_concat]
    have hself : [space].intercalate (term.splitOn space) = term := List.intercalate_splitOn space
    rw [hsplit] at hself
    rw [← hself]
    cases r <;> simp [List.intercalate]
  have htext := infix_enclose_iff (List.splitOn_ne_nil space text) hterm.tidy.1 hterm.tidy.2
    hterm.ne_nil
  rw [List.intercalate_splitOn] at htext
  rw [contains_iff, htext, hjoin,
    infix_crossing_iff hwsep hw (fun u hu => hsep u (by simp [hu])) (splitOn_separated text)
      hpsep hp]
  simp only [Occurs, List.forall₂_cons_left_iff, forall₂_openPattern]
  constructor
  · rintro ⟨u, v, hrun, hu, hv⟩
    exact ⟨u :: (r ++ [v]), hrun, u, r ++ [v], by simpa using hu, ⟨v, rfl, hv⟩, rfl⟩
  · rintro ⟨run, hrun, u, run', hu, ⟨v, rfl, hv⟩, rfl⟩
    exact ⟨u, v, hrun, by simpa using hu, hv⟩

theorem occurs_openPattern_of_closed {words ws : List Bytes}
    (h : Occurs (closedPattern words) ws) : Occurs (openPattern words) ws := by
  rcases List.eq_nil_or_concat words with rfl | ⟨r, p, hw⟩
  · exact h
  · rw [List.concat_eq_append] at hw
    subst hw
    exact occurs_openPattern.mpr ⟨p, occurs_closedPattern.mp h, List.prefix_rfl⟩

theorem openPattern_ne_nil {words : List Bytes} (h : words ≠ []) : openPattern words ≠ [] := by
  cases words with
  | nil => exact absurd rfl h
  | cons w words => cases words <;> simp [openPattern]

theorem termPattern_ne_nil (term : Bytes) : termPattern term ≠ [] := by
  have hsplit := List.splitOn_ne_nil space term
  simp only [termPattern]
  split_ifs
  · split
    · contradiction
    · exact List.cons_ne_nil _ _
    · exact List.cons_ne_nil _ _
  · simp [closedPattern]
  · exact List.cons_ne_nil _ _
  · exact openPattern_ne_nil hsplit

theorem kEmbeddedTerms_spaceless : ∀ term ∈ kEmbeddedTerms, space ∉ term := by decide

theorem contains_iff_of_nonAscii (hterm : WellFormedTerm term)
    (hascii : containsNonAscii term = true) :
    contains text term = true ↔ Occurs (termPattern term) (text.splitOn space) := by
  simp only [termPattern]
  rw [if_pos hascii]
  split
  · rename_i h
    exact absurd h (List.splitOn_ne_nil space term)
  · rename_i w h
    have hself : [space].intercalate (term.splitOn space) = term := List.intercalate_splitOn space
    have hw : w = term := by simpa [h] using hself
    have hspace : space ∉ w := splitOn_separated term w (by simp [h])
    rw [← hw] at hterm ⊢
    exact contains_inner hterm.ne_nil hspace
  · rename_i w ws hone h
    exact contains_crossing hterm h hone

/-- The ASCII rules: whole words, an open last word from four bytes on, and the
embedded terms anywhere. -/
theorem padded_lookup_iff (hterm : WellFormedTerm term) (hascii : containsNonAscii term = false) :
    (contains (space :: (text ++ [space])) (space :: (term ++ [space])) = true ∨
      4 ≤ term.length ∧ (contains (space :: (text ++ [space])) (space :: term) = true ∨
        kEmbeddedTerms.contains term = true ∧ contains text term = true)) ↔
      Occurs (termPattern term) (text.splitOn space) := by
  rw [contains_paddedTerm, contains_prefixTerm hterm]
  simp only [termPattern]
  rw [if_neg (by simp [hascii])]
  by_cases hlength : term.length < 4
  · have hshort : ¬ 4 ≤ term.length := by omega
    simp [hlength, hshort]
  · have hlong : 4 ≤ term.length := by omega
    rw [if_neg hlength]
    have hopen : Occurs (closedPattern (term.splitOn space)) (text.splitOn space) →
        Occurs (openPattern (term.splitOn space)) (text.splitOn space) := occurs_openPattern_of_closed
    by_cases hembedded : kEmbeddedTerms.contains term = true
    · have hspace := kEmbeddedTerms_spaceless term (by simpa using hembedded)
      have hword : term.splitOn space = [] ++ [term] := List.splitOn_eq_singleton hspace
      rw [if_pos hembedded, contains_inner hterm.ne_nil hspace]
      have hinner : Occurs (openPattern (term.splitOn space)) (text.splitOn space) →
          Occurs [fun u => contains u term] (text.splitOn space) := by
        rw [hword, occurs_openPattern, occurs_singleton]
        rintro ⟨v, hrun, hcut⟩
        exact ⟨v, hrun.subset (by simp), contains_iff.mpr hcut.isInfix⟩
      tauto
    · rw [if_neg hembedded]
      tauto

/-- A lookup succeeds exactly when consecutive words of the text pass the term's tests. -/
theorem containsSearchTerm_iff (hterm : WellFormedTerm term) :
    containsSearchTerm text term = true ↔ Occurs (termPattern term) (searchWords text) := by
  by_cases htext : text = []
  · subst htext
    simp [containsSearchTerm, not_occurs_nil (termPattern_ne_nil term)]
  · rw [searchWords_of_ne_nil htext]
    cases hascii : containsNonAscii term with
    | true =>
      rw [← contains_iff_of_nonAscii hterm hascii]
      simp [containsSearchTerm, htext, hterm.ne_nil, hascii]
    | false =>
      rw [← padded_lookup_iff hterm hascii]
      by_cases hlength : term.length < 4
      · have hshort : ¬ 4 ≤ term.length := by omega
        simp [containsSearchTerm, htext, hterm.ne_nil, hascii, hlength, hshort]
      · have hlong : 4 ≤ term.length := by omega
        simp [containsSearchTerm, htext, hterm.ne_nil, hascii, hlength, hlong]

end Lookup

end FittingSchlongs.Text
