import Mathlib.Tactic

/-! # Maximal runs of kept positions

Some positions are kept and some have a cut in front of them. The maximal runs of kept
positions without a cut inside are found from left to right: each position is skipped,
begins a run or extends the last one.
-/

namespace FittingSchlongs.Foundation.Segments

/-- The positions from `a` to before `b` are a maximal run below `n`. -/
structure IsSegment (kept cut : ℕ → Prop) (n a b : ℕ) : Prop where
  lt : a < b
  le : b ≤ n
  all_kept : ∀ i, a ≤ i → i < b → kept i
  no_cut : ∀ i, a < i → i < b → ¬cut i
  begins : a = 0 ∨ ¬kept (a - 1) ∨ cut a
  ends : b = n ∨ ¬kept b ∨ cut b

/-- The maximal runs below `n`, from left to right. -/
structure AllSegments (kept cut : ℕ → Prop) (n : ℕ) (spans : List (ℕ × ℕ)) : Prop where
  mem_iff : ∀ a b, (a, b) ∈ spans ↔ IsSegment kept cut n a b
  ordered : spans.Pairwise (fun s t => s.2 ≤ t.1)
  /-- The last run is still open while its last position is the last one read. -/
  last : 0 < n → kept (n - 1) → ∃ done a, spans = done ++ [(a, n)]

variable {kept cut : ℕ → Prop} {n a b : ℕ} {spans done : List (ℕ × ℕ)}

theorem IsSegment.kept_last (h : IsSegment kept cut n a b) : kept (b - 1) := by
  have hlt := h.lt
  exact h.all_kept (b - 1) (by omega) (by omega)

theorem isSegment_succ_iff (hb : b < n) :
    IsSegment kept cut (n + 1) a b ↔ IsSegment kept cut n a b := by
  have hends : (b = n + 1 ∨ ¬kept b ∨ cut b) ↔ (b = n ∨ ¬kept b ∨ cut b) := by
    have hne : b ≠ n + 1 := by omega
    simp [hne, hb.ne]
  constructor
  · exact fun h => ⟨h.lt, hb.le, h.all_kept, h.no_cut, h.begins, hends.mp h.ends⟩
  · exact fun h => ⟨h.lt, Nat.le_succ_of_le h.le, h.all_kept, h.no_cut, h.begins, hends.mpr h.ends⟩

theorem allSegments_zero : AllSegments kept cut 0 [] where
  mem_iff a b := by
    constructor
    · exact fun h => absurd h List.not_mem_nil
    · intro h
      have hlt := h.lt
      have hle := h.le
      omega
  ordered := List.Pairwise.nil
  last h _ := absurd h (Nat.lt_irrefl 0)

theorem AllSegments.skip (h : AllSegments kept cut n spans) (hn : ¬kept n) :
    AllSegments kept cut (n + 1) spans where
  mem_iff a b := by
    rw [h.mem_iff]
    rcases lt_trichotomy b n with hb | rfl | hb
    · exact (isSegment_succ_iff hb).symm
    · constructor
      · exact fun hs => ⟨hs.lt, Nat.le_succ b, hs.all_kept, hs.no_cut, hs.begins, Or.inr (Or.inl hn)⟩
      · exact fun hs => ⟨hs.lt, le_refl b, hs.all_kept, hs.no_cut, hs.begins, Or.inl rfl⟩
    · constructor
      · intro hs
        have hle := hs.le
        omega
      · intro hs
        have hle := hs.le
        have hlt := hs.lt
        exact absurd (hs.all_kept n (by omega) hb) hn
  ordered := h.ordered
  last _ hkept := absurd hkept hn

theorem isSegment_fresh_iff (hn : kept n) (hbegins : n = 0 ∨ ¬kept (n - 1) ∨ cut n) :
    IsSegment kept cut (n + 1) a (n + 1) ↔ a = n := by
  constructor
  · intro h
    have hlt := h.lt
    by_contra hne
    have hkept : kept (n - 1) := h.all_kept (n - 1) (by omega) (by omega)
    have hcut : ¬cut n := h.no_cut n (by omega) (by omega)
    rcases hbegins with hzero | hlast | hcut'
    · omega
    · exact hlast hkept
    · exact hcut hcut'
  · rintro rfl
    refine ⟨Nat.lt_succ_self a, le_refl _, ?_, ?_, hbegins, Or.inl rfl⟩
    · intro i hi hi'
      obtain rfl : i = a := by omega
      exact hn
    · intro i hi hi'
      omega

theorem IsSegment.closed (h : IsSegment kept cut n a n)
    (hbegins : n = 0 ∨ ¬kept (n - 1) ∨ cut n) : IsSegment kept cut (n + 1) a n := by
  have hlt := h.lt
  have hcut : cut n := by
    rcases hbegins with hzero | hlast | hcut
    · omega
    · exact absurd h.kept_last hlast
    · exact hcut
  exact ⟨hlt, Nat.le_succ n, h.all_kept, h.no_cut, h.begins, Or.inr (Or.inr hcut)⟩

theorem AllSegments.start (h : AllSegments kept cut n spans) (hn : kept n)
    (hbegins : n = 0 ∨ ¬kept (n - 1) ∨ cut n) :
    AllSegments kept cut (n + 1) (spans ++ [(n, n + 1)]) where
  mem_iff a b := by
    rw [List.mem_append, h.mem_iff, List.mem_singleton, Prod.mk.injEq]
    constructor
    · rintro (hs | ⟨rfl, rfl⟩)
      · have hle := hs.le
        by_cases hb : b < n
        · exact (isSegment_succ_iff hb).mpr hs
        · obtain rfl : b = n := by omega
          exact hs.closed hbegins
      · exact (isSegment_fresh_iff hn hbegins).mpr rfl
    · intro hs
      have hle := hs.le
      by_cases hb : b = n + 1
      · subst hb
        exact Or.inr ⟨(isSegment_fresh_iff hn hbegins).mp hs, rfl⟩
      · left
        refine ⟨hs.lt, by omega, hs.all_kept, hs.no_cut, hs.begins, ?_⟩
        exact Or.inr (hs.ends.resolve_left hb)
  ordered := by
    refine List.pairwise_append.mpr ⟨h.ordered, List.pairwise_singleton _ _, ?_⟩
    rintro ⟨a, b⟩ hmem t ht
    rw [List.mem_singleton.mp ht]
    exact ((h.mem_iff a b).mp hmem).le
  last _ _ := ⟨spans, n, rfl⟩

theorem isSegment_open_iff (hzero : 0 < n) (hlast : kept (n - 1)) (hn : kept n) (hcut : ¬cut n) :
    IsSegment kept cut (n + 1) a (n + 1) ↔ IsSegment kept cut n a n := by
  constructor
  · intro h
    have hlt : a < n := by
      have hle := h.lt
      by_contra hge
      obtain rfl : a = n := by omega
      rcases h.begins with hbegins | hbegins | hbegins
      · omega
      · exact hbegins hlast
      · exact hcut hbegins
    refine ⟨hlt, le_refl n, ?_, ?_, h.begins, Or.inl rfl⟩
    · exact fun i hi hi' => h.all_kept i hi (Nat.lt_succ_of_lt hi')
    · exact fun i hi hi' => h.no_cut i hi (Nat.lt_succ_of_lt hi')
  · intro h
    refine ⟨Nat.lt_succ_of_lt h.lt, le_refl _, ?_, ?_, h.begins, Or.inl rfl⟩
    · intro i hi hi'
      by_cases hin : i = n
      · exact hin ▸ hn
      · exact h.all_kept i hi (by omega)
    · intro i hi hi'
      by_cases hin : i = n
      · exact hin ▸ hcut
      · exact h.no_cut i hi (by omega)

theorem AllSegments.extend (h : AllSegments kept cut n (done ++ [(a, n)])) (hn : kept n)
    (hcut : ¬cut n) : AllSegments kept cut (n + 1) (done ++ [(a, n + 1)]) := by
  obtain ⟨hdone, -, hbefore⟩ := List.pairwise_append.mp h.ordered
  have hopen : IsSegment kept cut n a n := (h.mem_iff a n).mp (by simp)
  have hlt := hopen.lt
  have hclosed : ∀ c d, (c, d) ∈ done → d < n := fun c d hmem =>
    (hbefore (c, d) hmem (a, n) (List.mem_singleton_self _)).trans_lt hlt
  have hgrows : ∀ c, IsSegment kept cut (n + 1) c (n + 1) ↔ IsSegment kept cut n c n := fun c =>
    isSegment_open_iff (by omega) hopen.kept_last hn hcut
  constructor
  case mem_iff =>
    intro c d
    rw [List.mem_append, List.mem_singleton, Prod.mk.injEq]
    constructor
    · rintro (hmem | ⟨rfl, rfl⟩)
      · exact (isSegment_succ_iff (hclosed c d hmem)).mpr
          ((h.mem_iff c d).mp (List.mem_append_left _ hmem))
      · exact (hgrows c).mpr hopen
    · intro hs
      have hle := hs.le
      rcases lt_trichotomy d n with hd | rfl | hd
      · have hmem := (h.mem_iff c d).mpr ((isSegment_succ_iff hd).mp hs)
        left
        simpa [hd.ne] using hmem
      · rcases hs.ends with hends | hends | hends
        · omega
        · exact absurd hn hends
        · exact absurd hends hcut
      · obtain rfl : d = n + 1 := by omega
        have hmem := (h.mem_iff c n).mpr ((hgrows c).mp hs)
        right
        rcases List.mem_append.mp hmem with hearlier | hlast
        · exact absurd (hclosed c n hearlier) (Nat.lt_irrefl n)
        · simpa using hlast
  case ordered =>
    refine List.pairwise_append.mpr ⟨hdone, List.pairwise_singleton _ _, ?_⟩
    intro s hs t ht
    rw [List.mem_singleton.mp ht]
    exact hbefore s hs (a, n) (List.mem_singleton_self _)
  case last => exact fun _ _ => ⟨done, a, rfl⟩

end FittingSchlongs.Foundation.Segments
