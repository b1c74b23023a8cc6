import FittingSchlongs.Foundation.SeparatedWords

/-! # Patterns of word tests and the runs of words that pass them

A pattern is a list of tests. It occurs in a list of words when consecutive
words pass its tests one by one. A word that passes no test of the pattern
separates the words on its left from the words on its right.
-/

namespace FittingSchlongs.Foundation.Occurrence

variable {ω β : Type*}

/-- Consecutive words pass the tests one by one. -/
def Occurs (pattern : List (ω → Bool)) (words : List ω) : Prop :=
  ∃ run, run <:+: words ∧ List.Forall₂ (fun test w => test w = true) pattern run

/-- The word passes no test of the pattern. -/
def Alien (pattern : List (ω → Bool)) (w : ω) : Prop := ∀ test ∈ pattern, test w = false

theorem Occurs.mono {pattern : List (ω → Bool)} {ws vs : List ω} (h : Occurs pattern ws)
    (hsub : ws <:+: vs) : Occurs pattern vs := by
  obtain ⟨run, hrun, htests⟩ := h
  exact ⟨run, hrun.trans hsub, htests⟩

theorem Occurs.append_left {pattern : List (ω → Bool)} {ws : List ω} (h : Occurs pattern ws)
    (vs : List ω) : Occurs pattern (vs ++ ws) :=
  h.mono (List.suffix_append vs ws).isInfix

theorem Occurs.append_right {pattern : List (ω → Bool)} {ws : List ω} (h : Occurs pattern ws)
    (vs : List ω) : Occurs pattern (ws ++ vs) :=
  h.mono (List.prefix_append ws vs).isInfix

theorem occurs_singleton {test : ω → Bool} {ws : List ω} :
    Occurs [test] ws ↔ ∃ w ∈ ws, test w = true := by
  constructor
  · rintro ⟨run, hrun, htests⟩
    obtain ⟨w, run', hw, hrun', rfl⟩ := List.forall₂_cons_left_iff.mp htests
    exact ⟨w, hrun.subset List.mem_cons_self, hw⟩
  · rintro ⟨w, hw, hpass⟩
    obtain ⟨front, back, rfl⟩ := List.append_of_mem hw
    exact ⟨[w], ⟨front, back, by simp⟩, List.Forall₂.cons hpass List.Forall₂.nil⟩

theorem not_occurs_nil {pattern : List (ω → Bool)} (hne : pattern ≠ []) :
    ¬ Occurs pattern ([] : List ω) := by
  rintro ⟨run, hrun, htests⟩
  rw [List.infix_nil.mp hrun, List.forall₂_nil_right_iff] at htests
  exact hne htests

theorem Alien.not_mem {pattern : List (ω → Bool)} {w : ω} (hw : Alien pattern w) {run : List ω}
    (htests : List.Forall₂ (fun test w => test w = true) pattern run) : w ∉ run := by
  induction htests with
  | nil => exact List.not_mem_nil
  | @cons test v tests run hpass _ ih =>
    intro hmem
    rcases List.mem_cons.mp hmem with rfl | hmem
    · rw [hw test List.mem_cons_self] at hpass
      exact Bool.false_ne_true hpass
    · exact ih (fun t ht => hw t (List.mem_cons_of_mem test ht)) hmem

theorem occurs_append_alien_cons {pattern : List (ω → Bool)} (hne : pattern ≠ []) {w : ω}
    (hw : Alien pattern w) {xs ys : List ω} :
    Occurs pattern (xs ++ w :: ys) ↔ Occurs pattern xs ∨ Occurs pattern ys := by
  constructor
  · rintro ⟨run, hrun, htests⟩
    have hrne : run ≠ [] := by
      rintro rfl
      exact hne (List.forall₂_nil_right_iff.mp htests)
    rcases (SeparatedWords.infix_inner_append (hw.not_mem htests) hrne).mp hrun with h | h
    · exact Or.inl ⟨run, h, htests⟩
    · exact Or.inr ⟨run, h, htests⟩
  · rintro (h | h)
    · exact h.append_right (w :: ys)
    · exact (h.append_left [w]).append_left xs

/-- Dropping alien words joins their neighbours and so loses no occurrence. -/
theorem Occurs.drop_aliens {pattern : List (ω → Bool)} (hne : pattern ≠ []) {xs aliens ys : List ω}
    (ha : ∀ w ∈ aliens, Alien pattern w) (h : Occurs pattern (xs ++ (aliens ++ ys))) :
    Occurs pattern (xs ++ ys) := by
  induction aliens generalizing xs with
  | nil => exact h
  | cons w aliens ih =>
    have hrest := fun v hv => ha v (List.mem_cons_of_mem w hv)
    rw [List.cons_append, occurs_append_alien_cons hne (ha w List.mem_cons_self)] at h
    rcases h with h | h
    · exact h.append_right ys
    · exact (ih hrest ((List.nil_append (aliens ++ ys)).symm ▸ h)).append_left xs

theorem occurs_append_aliens {pattern : List (ω → Bool)} (hne : pattern ≠ []) {xs aliens : List ω}
    (ha : ∀ w ∈ aliens, Alien pattern w) :
    Occurs pattern (xs ++ aliens) ↔ Occurs pattern xs := by
  constructor
  · intro h
    have hdrop : Occurs pattern (xs ++ []) :=
      Occurs.drop_aliens hne ha (by rwa [List.append_nil])
    rwa [List.append_nil] at hdrop
  · exact fun h => h.append_right aliens

theorem Occurs.filter_blocks {pattern : List (ω → Bool)} (hne : pattern ≠ []) {block : β → List ω}
    {keep : β → Bool} {fields : List β}
    (ha : ∀ f ∈ fields, keep f = false → ∀ w ∈ block f, Alien pattern w) {front : List ω}
    (h : Occurs pattern (front ++ fields.flatMap block)) :
    Occurs pattern (front ++ (fields.filter keep).flatMap block) := by
  induction fields generalizing front with
  | nil => exact h
  | cons f fields ih =>
    have hrest := fun g hg => ha g (List.mem_cons_of_mem f hg)
    rw [List.flatMap_cons] at h
    cases hkeep : keep f with
    | true =>
      rw [List.filter_cons_of_pos hkeep, List.flatMap_cons, ← List.append_assoc]
      exact ih hrest (by rwa [List.append_assoc])
    | false =>
      rw [List.filter_cons_of_neg (by simp [hkeep])]
      exact ih hrest (h.drop_aliens hne (ha f List.mem_cons_self hkeep))

/-! ## Patterns of two tests and the joints between blocks -/

section Pairs

variable {test₁ test₂ : ω → Bool}

theorem occurs_pair {ws : List ω} :
    Occurs [test₁, test₂] ws ↔ ∃ u v, [u, v] <:+: ws ∧ test₁ u = true ∧ test₂ v = true := by
  constructor
  · rintro ⟨run, hrun, htests⟩
    cases htests with
    | cons hu htests =>
      cases htests with
      | cons hv htests =>
        cases htests with
        | nil => exact ⟨_, _, hrun, hu, hv⟩
  · rintro ⟨u, v, hrun, hu, hv⟩
    exact ⟨[u, v], hrun, .cons hu (.cons hv .nil)⟩

theorem singleton_suffix_iff {u : ω} {xs : List ω} : [u] <:+ xs ↔ xs.getLast? = some u := by
  rw [List.getLast?_eq_some_iff]
  exact exists_congr fun _ => eq_comm

theorem singleton_prefix_iff {v : ω} {ys : List ω} : [v] <+: ys ↔ ys.head? = some v := by
  cases ys <;> simp [List.cons_prefix_cons, eq_comm]

theorem occurs_pair_append {xs ys : List ω} :
    Occurs [test₁, test₂] (xs ++ ys) ↔
      Occurs [test₁, test₂] xs ∨ Occurs [test₁, test₂] ys ∨
        ∃ u v, xs.getLast? = some u ∧ ys.head? = some v ∧ test₁ u = true ∧ test₂ v = true := by
  constructor
  · intro h
    obtain ⟨u, v, hrun, hu, hv⟩ := occurs_pair.mp h
    rcases List.infix_append_iff_ne_nil.mp hrun with hxs | hys | ⟨l, r, hl, hr, heq, hsuf, hpre⟩
    · exact Or.inl (occurs_pair.mpr ⟨u, v, hxs, hu, hv⟩)
    · exact Or.inr (Or.inl (occurs_pair.mpr ⟨u, v, hys, hu, hv⟩))
    · -- Neither part is empty, so each of them is one word.
      obtain ⟨rfl, rfl⟩ : l = [u] ∧ r = [v] := by
        cases l with
        | nil => exact absurd rfl hl
        | cons a l =>
          cases l with
          | nil => simp_all
          | cons b l => simp_all
      exact Or.inr (Or.inr ⟨u, v, singleton_suffix_iff.mp hsuf, singleton_prefix_iff.mp hpre, hu, hv⟩)
  · rintro (h | h | ⟨u, v, hlast, hhead, hu, hv⟩)
    · exact h.append_right ys
    · exact h.append_left xs
    · refine occurs_pair.mpr ⟨u, v, ?_, hu, hv⟩
      exact List.infix_append_iff.mpr (Or.inr (Or.inr
        ⟨[u], [v], rfl, singleton_suffix_iff.mpr hlast, singleton_prefix_iff.mpr hhead⟩))

/-- The last word of each block with the first word that follows it. -/
def joints : List (List ω) → List (ω × ω)
  | [] => []
  | block :: blocks =>
      (match block.getLast?, blocks.flatten.head? with
        | some u, some v => [(u, v)]
        | _, _ => []) ++ joints blocks

theorem mem_joints_cons {block : List ω} {blocks : List (List ω)} {u v : ω} :
    (u, v) ∈ joints (block :: blocks) ↔
      (block.getLast? = some u ∧ blocks.flatten.head? = some v) ∨ (u, v) ∈ joints blocks := by
  rw [joints, List.mem_append]
  apply or_congr_left
  cases block.getLast? <;> cases blocks.flatten.head? <;> simp [eq_comm]

theorem occurs_pair_flatten {blocks : List (List ω)} :
    Occurs [test₁, test₂] blocks.flatten ↔
      (∃ block ∈ blocks, Occurs [test₁, test₂] block) ∨
        ∃ u v, (u, v) ∈ joints blocks ∧ test₁ u = true ∧ test₂ v = true := by
  induction blocks with
  | nil => simp [joints, not_occurs_nil]
  | cons block blocks ih =>
    rw [List.flatten_cons, occurs_pair_append, ih]
    simp only [mem_joints_cons, List.mem_cons, or_and_right, exists_or, exists_eq_left, and_assoc,
      or_assoc]
    exact or_congr_right (or_congr_right or_comm)

theorem mem_of_mem_joints {blocks : List (List ω)} {u v : ω} (h : (u, v) ∈ joints blocks) :
    u ∈ blocks.flatten ∧ v ∈ blocks.flatten := by
  induction blocks with
  | nil => exact absurd h List.not_mem_nil
  | cons block blocks ih =>
    rw [List.flatten_cons, List.mem_append, List.mem_append]
    rcases mem_joints_cons.mp h with ⟨hlast, hhead⟩ | h
    · exact ⟨Or.inl (List.mem_of_getLast? hlast), Or.inr (List.mem_of_mem_head? hhead)⟩
    · exact ⟨Or.inr (ih h).1, Or.inr (ih h).2⟩

theorem occurs_pair_of_two {u v : ω} :
    Occurs [test₁, test₂] [u, v] ↔ test₁ u = true ∧ test₂ v = true := by
  rw [occurs_pair]
  constructor
  · rintro ⟨a, b, hrun, ha, hb⟩
    have heq : [a, b] = [u, v] := hrun.eq_of_length rfl
    simp only [List.cons.injEq, and_true] at heq
    exact ⟨heq.1 ▸ ha, heq.2 ▸ hb⟩
  · exact fun h => ⟨u, v, List.infix_rfl, h.1, h.2⟩

end Pairs

/-- A pattern of at most two tests occurs inside a block or in the two words at a joint. -/
theorem occurs_flatten_iff {pattern : List (ω → Bool)}
    (hlength : pattern.length = 1 ∨ pattern.length = 2) {blocks : List (List ω)} :
    Occurs pattern blocks.flatten ↔
      (∃ block ∈ blocks, Occurs pattern block) ∨
        ∃ u v, (u, v) ∈ joints blocks ∧ Occurs pattern [u, v] := by
  cases hlength with
  | inl hone =>
    obtain ⟨test, rfl⟩ := List.length_eq_one_iff.mp hone
    simp only [occurs_singleton, List.mem_flatten, List.mem_pair]
    constructor
    · rintro ⟨w, ⟨block, hblock, hw⟩, hpass⟩
      exact Or.inl ⟨block, hblock, w, hw, hpass⟩
    · rintro (⟨block, hblock, w, hw, hpass⟩ | ⟨u, v, hjoint, w, hw, hpass⟩)
      · exact ⟨w, ⟨block, hblock, hw⟩, hpass⟩
      · have hmem := mem_of_mem_joints hjoint
        rw [List.mem_flatten, List.mem_flatten] at hmem
        cases hw with
        | inl h => exact ⟨w, h ▸ hmem.1, hpass⟩
        | inr h => exact ⟨w, h ▸ hmem.2, hpass⟩
  | inr htwo =>
    obtain ⟨test₁, test₂, rfl⟩ := List.length_eq_two.mp htwo
    rw [occurs_pair_flatten]
    simp only [occurs_pair_of_two]

end FittingSchlongs.Foundation.Occurrence
