import Mathlib.Data.List.Infix
import Mathlib.Tactic

/-! # Substrings of a text cut into words by one separator

A text is a list of words written with a single separator before the first and
after each of them. A substring that respects the separators is then a run of
consecutive words, whose first word may be cut on the left and whose last word
may be cut on the right.
-/

namespace FittingSchlongs.Foundation.SeparatedWords

variable {α : Type*} {s : α}

/-- The words with one separator in front of the first and one after each. -/
def enclose (s : α) : List (List α) → List α
  | [] => [s]
  | w :: ws => s :: (w ++ enclose s ws)

/-- No word contains the separator. -/
def Separated (s : α) (ws : List (List α)) : Prop := ∀ w ∈ ws, s ∉ w

theorem Separated.head {w : List α} {ws : List (List α)} (h : Separated s (w :: ws)) : s ∉ w :=
  h w List.mem_cons_self

theorem Separated.tail {w : List α} {ws : List (List α)} (h : Separated s (w :: ws)) :
    Separated s ws :=
  fun u hu => h u (List.mem_cons_of_mem w hu)

theorem Separated.suffix {vs ws : List (List α)} (h : Separated s ws) (hv : vs <:+ ws) :
    Separated s vs :=
  fun u hu => h u (hv.subset hu)

theorem enclose_eq_cons (ws : List (List α)) : ∃ t, enclose s ws = s :: t := by
  cases ws with
  | nil => exact ⟨[], rfl⟩
  | cons w ws => exact ⟨w ++ enclose s ws, rfl⟩

theorem enclose_eq_intercalate {ws : List (List α)} (hws : ws ≠ []) :
    enclose s ws = s :: ([s].intercalate ws ++ [s]) := by
  induction ws with
  | nil => exact absurd rfl hws
  | cons w ws ih =>
    cases ws with
    | nil => simp [enclose]
    | cons v vs =>
      rw [enclose, ih (List.cons_ne_nil v vs)]
      simp [List.intercalate]

theorem cons_intercalate_concat (ws : List (List α)) (p : List α) :
    s :: [s].intercalate (ws ++ [p]) = enclose s ws ++ p := by
  induction ws with
  | nil => simp [enclose, List.intercalate]
  | cons w ws ih =>
    cases ws with
    | nil => simp [enclose, List.intercalate]
    | cons v vs =>
      change _ = s :: ((w ++ enclose s (v :: vs)) ++ p)
      rw [List.append_assoc, ← ih]
      simp [List.intercalate]

/-! ## One word followed by a separator -/

theorem prefix_delimited {w u x y : List α} (hw : s ∉ w) (hu : s ∉ u) :
    w ++ s :: x <+: u ++ s :: y ↔ w = u ∧ x <+: y := by
  induction w generalizing u with
  | nil =>
    cases u with
    | nil => simp [List.cons_prefix_cons]
    | cons b u =>
      have hb : s ≠ b := fun h => hu (h ▸ List.mem_cons_self)
      simp [List.cons_prefix_cons, hb]
  | cons a w ih =>
    have ha : a ≠ s := fun h => hw (h ▸ List.mem_cons_self)
    cases u with
    | nil => simp [List.cons_prefix_cons, ha]
    | cons b u =>
      have hw' : s ∉ w := fun h => hw (List.mem_cons_of_mem a h)
      have hu' : s ∉ u := fun h => hu (List.mem_cons_of_mem b h)
      simp only [List.cons_append, List.cons_prefix_cons, ih hw' hu', List.cons.injEq]
      tauto

theorem prefix_inner {p u y : List α} (hp : s ∉ p) : p <+: u ++ s :: y ↔ p <+: u := by
  constructor
  · intro h
    induction p generalizing u with
    | nil => exact List.nil_prefix
    | cons a p ih =>
      have ha : a ≠ s := fun he => hp (he ▸ List.mem_cons_self)
      cases u with
      | nil => simp [List.cons_prefix_cons, ha] at h
      | cons b u =>
        rw [List.cons_append, List.cons_prefix_cons] at h
        exact List.cons_prefix_cons.mpr
          ⟨h.1, ih (fun he => hp (List.mem_cons_of_mem a he)) h.2⟩
  · exact fun h => h.trans (List.prefix_append u _)

theorem infix_separator_append {x u y : List α} (hu : s ∉ u) :
    s :: x <:+: u ++ y ↔ s :: x <:+: y := by
  induction u with
  | nil => simp
  | cons b u ih =>
    have hb : s ≠ b := fun h => hu (h ▸ List.mem_cons_self)
    rw [List.cons_append, List.infix_cons_iff, ih (fun h => hu (List.mem_cons_of_mem b h)),
      List.cons_prefix_cons]
    simp [hb]

theorem infix_inner_append {p u y : List α} (hp : s ∉ p) (hne : p ≠ []) :
    p <:+: u ++ s :: y ↔ p <:+: u ∨ p <:+: y := by
  have hhead : ¬ p <+: s :: y := by
    intro h
    have := (prefix_inner (u := []) hp).mp h
    exact hne (List.prefix_nil.mp this)
  induction u with
  | nil => simp [List.infix_cons_iff, hhead, hne]
  | cons b u ih =>
    have hcut : p <+: b :: (u ++ s :: y) ↔ p <+: b :: u := prefix_inner (u := b :: u) hp
    rw [List.cons_append, List.infix_cons_iff, List.infix_cons_iff, hcut, or_assoc]
    exact or_congr_right ih

theorem infix_crossing_append {p x u y : List α} (hp : s ∉ p) (hu : s ∉ u) :
    p ++ s :: x <:+: u ++ s :: y ↔ (p <:+ u ∧ x <+: y) ∨ p ++ s :: x <:+: s :: y := by
  induction u with
  | nil =>
    simp only [List.nil_append, List.suffix_nil]
    constructor
    · exact Or.inr
    · rintro (⟨rfl, h⟩ | h)
      · exact (List.cons_prefix_cons.mpr ⟨rfl, h⟩).isInfix
      · exact h
  | cons b u ih =>
    have hu' : s ∉ u := fun h => hu (List.mem_cons_of_mem b h)
    rw [List.cons_append, List.infix_cons_iff, ih hu', ← List.cons_append,
      prefix_delimited hp hu, List.suffix_cons_iff]
    tauto

/-! ## Runs of words -/

theorem prefix_open_iff {r ws : List (List α)} {p : List α} (hr : Separated s r)
    (hws : Separated s ws) (hp : s ∉ p) (hne : p ≠ []) :
    enclose s r ++ p <+: enclose s ws ↔ ∃ v, r ++ [v] <+: ws ∧ p <+: v := by
  induction r generalizing ws with
  | nil =>
    cases ws with
    | nil => simp [enclose, List.cons_prefix_cons, hne]
    | cons w ws =>
      obtain ⟨t, ht⟩ := enclose_eq_cons (s := s) ws
      simp [enclose, List.cons_prefix_cons, ht, prefix_inner hp]
  | cons u r ih =>
    cases ws with
    | nil =>
      obtain ⟨t, ht⟩ := enclose_eq_cons (s := s) r
      simp [enclose, List.cons_prefix_cons, ht]
    | cons w ws =>
      obtain ⟨t, ht⟩ := enclose_eq_cons (s := s) ws
      obtain ⟨t', ht'⟩ := enclose_eq_cons (s := s) r
      have hdel := prefix_delimited (x := t' ++ p) (y := t) hr.head hws.head
      have hrest := ih hr.tail hws.tail
      rw [ht, ht', List.cons_append, List.cons_prefix_cons] at hrest
      simp only [enclose, ht, ht', List.cons_append, List.append_assoc, List.cons_prefix_cons,
        true_and] at hrest ⊢
      rw [hdel, hrest]
      simp only [and_assoc, exists_and_left]

theorem prefix_closed_iff {r ws : List (List α)} (hr : Separated s r) (hws : Separated s ws) :
    enclose s r <+: enclose s ws ↔ r <+: ws := by
  induction r generalizing ws with
  | nil =>
    obtain ⟨t, ht⟩ := enclose_eq_cons (s := s) ws
    simp [enclose, ht]
  | cons u r ih =>
    obtain ⟨t', ht'⟩ := enclose_eq_cons (s := s) r
    cases ws with
    | nil => simp [enclose, ht', List.cons_prefix_cons]
    | cons w ws =>
      obtain ⟨t, ht⟩ := enclose_eq_cons (s := s) ws
      have hdel := prefix_delimited (x := t') (y := t) hr.head hws.head
      have hrest := ih hr.tail hws.tail
      rw [ht, ht', List.cons_prefix_cons] at hrest
      simp only [enclose, ht, ht', List.cons_prefix_cons, true_and] at hrest ⊢
      rw [hdel, hrest]

theorem infix_separator_iff {x : List α} {ws : List (List α)} (hws : Separated s ws) :
    s :: x <:+: enclose s ws ↔ ∃ vs, vs <:+ ws ∧ s :: x <+: enclose s vs := by
  induction ws with
  | nil =>
    simp [enclose, List.infix_cons_iff]
  | cons w ws ih =>
    have hskip : s :: x <:+: w ++ enclose s ws ↔ s :: x <:+: enclose s ws :=
      infix_separator_append hws.head
    rw [enclose, List.infix_cons_iff, hskip, ih hws.tail]
    simp only [List.suffix_cons_iff, or_and_right, exists_or, exists_eq_left, enclose]

/-- Whole words occur in a text exactly as a run of its words. -/
theorem infix_closed_iff {r ws : List (List α)} (hr : Separated s r) (hws : Separated s ws) :
    enclose s r <:+: enclose s ws ↔ r <:+: ws := by
  obtain ⟨t, ht⟩ := enclose_eq_cons (s := s) r
  rw [ht, infix_separator_iff hws, List.infix_iff_prefix_suffix]
  refine exists_congr fun vs => ?_
  rw [and_comm]
  refine and_congr_left fun hv => ?_
  rw [← ht, prefix_closed_iff hr (hws.suffix hv)]

/-- Whole words with a cut last word occur exactly as a run of words. -/
theorem infix_open_iff {r ws : List (List α)} {p : List α} (hr : Separated s r)
    (hws : Separated s ws) (hp : s ∉ p) (hne : p ≠ []) :
    enclose s r ++ p <:+: enclose s ws ↔ ∃ v, r ++ [v] <:+: ws ∧ p <+: v := by
  obtain ⟨t, ht⟩ := enclose_eq_cons (s := s) r
  rw [ht, List.cons_append, infix_separator_iff hws]
  constructor
  · rintro ⟨vs, hv, h⟩
    rw [← List.cons_append, ← ht, prefix_open_iff hr (hws.suffix hv) hp hne] at h
    obtain ⟨v, hrun, hcut⟩ := h
    exact ⟨v, List.infix_iff_prefix_suffix.mpr ⟨vs, hrun, hv⟩, hcut⟩
  · rintro ⟨v, hrun, hcut⟩
    obtain ⟨vs, hpre, hv⟩ := List.infix_iff_prefix_suffix.mp hrun
    refine ⟨vs, hv, ?_⟩
    rw [← List.cons_append, ← ht, prefix_open_iff hr (hws.suffix hv) hp hne]
    exact ⟨v, hpre, hcut⟩

theorem infix_inner_iff {p : List α} {ws : List (List α)} (hp : s ∉ p) (hne : p ≠ []) :
    p <:+: enclose s ws ↔ ∃ w ∈ ws, p <:+: w := by
  have hstart (y : List α) : p <:+: s :: y ↔ p <:+: y := by
    have := infix_inner_append (u := []) (y := y) hp hne
    simpa [hne] using this
  induction ws with
  | nil => simp [enclose, hstart, hne]
  | cons w ws ih =>
    obtain ⟨t, ht⟩ := enclose_eq_cons (s := s) ws
    rw [ht, hstart] at ih
    rw [enclose, hstart, ht, infix_inner_append hp hne]
    simp only [ih, List.mem_cons, exists_eq_or_imp]

/-- A substring that crosses separators ends one word, runs through whole words
and begins another. -/
theorem infix_crossing_iff {p q : List α} {r ws : List (List α)} (hp : s ∉ p) (hpne : p ≠ [])
    (hr : Separated s r) (hws : Separated s ws) (hq : s ∉ q) (hqne : q ≠ []) :
    p ++ enclose s r ++ q <:+: enclose s ws ↔
      ∃ u v, u :: (r ++ [v]) <:+: ws ∧ p <:+ u ∧ q <+: v := by
  obtain ⟨t, ht⟩ := enclose_eq_cons (s := s) r
  have hstart (y : List α) : p ++ s :: (t ++ q) <:+: s :: y ↔ p ++ s :: (t ++ q) <:+: y := by
    rw [List.infix_cons_iff, or_iff_right]
    intro h
    cases p with
    | nil => exact hpne rfl
    | cons a p =>
      rw [List.cons_append, List.cons_prefix_cons] at h
      exact hp (h.1 ▸ List.mem_cons_self)
  induction ws with
  | nil => simp [enclose, ht, hstart]
  | cons w ws ih =>
    obtain ⟨t', ht'⟩ := enclose_eq_cons (s := s) ws
    have hopen := prefix_open_iff hr hws.tail hq hqne
    have hrest := ih hws.tail
    rw [ht, ht', List.cons_append, List.cons_prefix_cons] at hopen
    simp only [ht, ht', List.append_assoc, List.cons_append] at hrest ⊢
    simp only [true_and] at hopen
    rw [enclose, hstart, ht', infix_crossing_append hp hws.head, hopen]
    simp only [hrest]
    constructor
    · rintro (⟨hcut, v, hrun, hv⟩ | ⟨u, v, hrun, hu, hv⟩)
      · exact ⟨w, v, (List.cons_prefix_cons.mpr ⟨rfl, hrun⟩).isInfix, hcut, hv⟩
      · exact ⟨u, v, List.infix_cons hrun, hu, hv⟩
    · rintro ⟨u, v, hrun, hu, hv⟩
      rcases List.infix_cons_iff.mp hrun with h | h
      · obtain ⟨rfl, hpre⟩ := List.cons_prefix_cons.mp h
        exact Or.inl ⟨hu, v, hpre, hv⟩
      · exact Or.inr ⟨u, v, h, hu, hv⟩

theorem infix_enclose_iff {p : List α} {ws : List (List α)} (hws : ws ≠ [])
    (hhead : p.head? ≠ some s) (hlast : p.getLast? ≠ some s) (hne : p ≠ []) :
    p <:+: [s].intercalate ws ↔ p <:+: enclose s ws := by
  rw [enclose_eq_intercalate hws]
  constructor
  · exact fun h => List.infix_cons (h.trans (List.prefix_append _ _).isInfix)
  · intro h
    rcases List.infix_cons_iff.mp h with h | h
    · cases p with
      | nil => exact absurd rfl hne
      | cons a p =>
        obtain ⟨rfl, -⟩ := List.cons_prefix_cons.mp h
        exact absurd rfl hhead
    · rcases List.infix_concat_iff.mp h with h | h
      · obtain ⟨x, hx⟩ := h
        have := congrArg List.getLast? hx
        rw [List.getLast?_append_of_ne_nil _ hne] at this
        exact absurd (by simpa using this) hlast
      · exact h

/-! ## Joined texts -/

theorem intercalate_concat {ws : List (List α)} (hws : ws ≠ []) (p : List α) :
    [s].intercalate (ws ++ [p]) = [s].intercalate ws ++ s :: p := by
  have h := cons_intercalate_concat (s := s) ws p
  rw [enclose_eq_intercalate hws, List.cons_append, List.append_assoc] at h
  exact (List.cons.inj h).2

theorem intercalate_ne_nil {ws : List (List α)} (hws : ws ≠ []) (hne : [] ∉ ws) :
    [s].intercalate ws ≠ [] := by
  cases ws using List.reverseRecOn with
  | nil => exact absurd rfl hws
  | append_singleton vs w =>
    by_cases hvs : vs = []
    · subst hvs
      rw [List.nil_append, List.intercalate_singleton]
      exact fun hnil => hne (List.mem_singleton.mpr hnil.symm)
    · rw [intercalate_concat hvs]
      exact List.append_ne_nil_of_right_ne_nil _ (List.cons_ne_nil s w)

theorem double_not_infix_enclose {ws : List (List α)} (hws : Separated s ws) (hne : [] ∉ ws) :
    ¬[s, s] <:+: enclose s ws := by
  have hempty : Separated s [[]] := by simp [Separated]
  have hdouble : [s, s] = enclose s [[]] := rfl
  rw [hdouble, infix_closed_iff hempty hws]
  exact fun h => hne (h.subset (List.mem_singleton_self []))

theorem intercalate_tidy {ws : List (List α)} (hws : Separated s ws) (hne : [] ∉ ws) :
    ([s].intercalate ws).head? ≠ some s ∧ ([s].intercalate ws).getLast? ≠ some s ∧
      ¬[s, s] <:+: [s].intercalate ws := by
  cases ws with
  | nil => simp [List.intercalate]
  | cons w ws =>
    have hdouble := double_not_infix_enclose hws hne
    rw [enclose_eq_intercalate (List.cons_ne_nil w ws)] at hdouble
    refine ⟨?_, ?_, ?_⟩
    · intro hhead
      obtain ⟨t, ht⟩ := List.head?_eq_some_iff.mp hhead
      apply hdouble
      rw [ht]
      exact (List.prefix_append [s, s] (t ++ [s])).isInfix
    · intro hlast
      obtain ⟨t, ht⟩ := List.getLast?_eq_some_iff.mp hlast
      apply hdouble
      rw [ht, List.append_assoc, ← List.cons_append]
      exact (List.suffix_append (s :: t) [s, s]).isInfix
    · intro hinner
      exact hdouble (List.infix_cons (hinner.trans (List.prefix_append _ [s]).isInfix))

end FittingSchlongs.Foundation.SeparatedWords
